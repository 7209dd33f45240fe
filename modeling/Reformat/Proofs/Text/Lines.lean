import Reformat.History.Hunk
import Reformat.Proofs.Text.Boundary

/-
  The lines of a text.

  A line goes up to a line feed, which belongs to it, or to the
  end of the text.  A text without its last line feed has the
  same number of lines, and the empty text has none.

  Key definitions include:
    * `Text.lines`
    * `Text.ofLines`
    * `Text.offsetOfLine`
    * `Text.OnLine`

  Main statements:
    * `Text.flatten_lines`
    * `Text.lineStart_lineStarts`
    * `Text.slice_lines`
    * `Text.exists_onLine_iff`
-/

------------------------------------------------------------
-- Lines
------------------------------------------------------------

namespace Reformat

namespace Text

/- The lines of a text, each with its line feed. -/
def lines : List Char → List (List Char)
  | [] => []
  | c :: cs =>
      if c = '\n' then
        [c] :: lines cs
      else
        match lines cs with
        | [] => [[c]]
        | line :: rest => (c :: line) :: rest

/- The text of some lines. -/
def ofLines (ls : List (List Char)) : String :=
  String.ofList ls.flatten

/- Where a line starts, counted from zero, and where the text
  ends for lines that it does not have. -/
def offsetOfLine
    (s : String)
    (k : Nat) : Nat :=
  size (ofLines ((lines s.toList).take k))

/- The lines of a text make it up. -/
@[simp]
theorem flatten_lines (cs : List Char) :
    (lines cs).flatten = cs := by
  induction cs with
  | nil => rfl
  | cons c cs ih =>
      unfold lines
      split
      · rw [List.flatten_cons, ih, List.singleton_append]
      · split
        · next hNone =>
          rw [hNone] at ih
          rw [← ih]
          rfl
        · next line rest hSome =>
          rw [hSome] at ih
          rw [← ih]
          rfl

end Text

end Reformat

------------------------------------------------------------
-- Sizes
------------------------------------------------------------

namespace Reformat

namespace Text

/- A character takes its own bytes. -/
theorem size_ofList_cons
    (c : Char)
    (cs : List Char) :
    size (String.ofList (c :: cs)) =
      c.utf8Size + size (String.ofList cs) := by
  rw [String.ofList_cons, size, String.utf8ByteSize_append,
    String.utf8ByteSize_singleton]

/- Some characters take some bytes. -/
theorem size_ofList_pos
    {cs : List Char}
    (hSome : cs ≠ []) :
    0 < size (String.ofList cs) := by
  cases cs with
  | nil => exact absurd rfl hSome
  | cons c cs =>
      rw [size_ofList_cons]
      exact Nat.add_pos_left c.utf8Size_pos _

/- The text of lines is that of the first and the others. -/
theorem size_ofLines_cons
    (line : List Char)
    (ls : List (List Char)) :
    size (ofLines (line :: ls)) =
      size (String.ofList line) + size (ofLines ls) := by
  unfold ofLines
  rw [List.flatten_cons, String.ofList_append, size,
    String.utf8ByteSize_append]

/- One more character lengthens the first line. -/
theorem size_take_lines_cons
    {c : Char}
    (hc : c ≠ '\n')
    (cs : List Char)
    (k : Nat) :
    size (ofLines ((lines (c :: cs)).take (k + 1))) =
      c.utf8Size +
        size (ofLines ((lines cs).take (k + 1))) := by
  rw [lines, if_neg hc]
  cases lines cs with
  | nil =>
      rw [List.take_nil, List.take_succ_cons, List.take_nil,
        size_ofLines_cons, size_ofList_cons]
      rfl
  | cons line rest =>
      simp only [List.take_succ_cons, size_ofLines_cons,
        size_ofList_cons]
      exact Nat.add_assoc _ _ _

end Text

end Reformat

------------------------------------------------------------
-- Starts
------------------------------------------------------------

namespace Reformat

namespace Text

/- Line ends further on are those of the rest, moved. -/
theorem foldl_lineEnds
    (cs : List Char)
    (ends : Array Nat)
    (here : Nat) :
    (cs.foldl
        (fun (ends, here) c =>
          let next := here + c.utf8Size
          if c = '\n' then (ends.push next, next)
          else (ends, next))
        (ends, here)).1.toList =
      ends.toList ++ (lineEnds cs).toList.map (here + ·) := by
  induction cs generalizing ends here with
  | nil => simp [lineEnds]
  | cons c cs ih =>
      unfold lineEnds
      simp only [List.foldl_cons, Nat.zero_add]
      by_cases hc : c = '\n'
      · subst hc
        simp only [if_true, ih]
        simp [Nat.add_assoc, Function.comp_def]
      · simp only [hc, if_false, ih]
        simp [Nat.add_assoc, Function.comp_def]

/- The line ends of a text, from its first character on. -/
theorem lineEnds_cons
    (c : Char)
    (cs : List Char) :
    (lineEnds (c :: cs)).toList =
      (if c = '\n' then [c.utf8Size] else []) ++
        (lineEnds cs).toList.map (c.utf8Size + ·) := by
  conv => lhs; unfold lineEnds
  rw [List.foldl_cons]
  by_cases hc : c = '\n'
  · simp only [hc, if_true, Nat.zero_add]
    exact foldl_lineEnds cs _ _
  · simp only [hc, if_false, Nat.zero_add]
    exact foldl_lineEnds cs _ _

/- Where the lines after the first start. -/
def laterStarts (cs : List Char) : List Nat :=
  (lineEnds cs).toList.filter fun p =>
    decide (p < size (String.ofList cs))

/- A line feed starts a line unless it is the last byte. -/
theorem laterStarts_cons
    (c : Char)
    (cs : List Char) :
    laterStarts (c :: cs) =
      (if c = '\n' ∧ cs ≠ [] then [c.utf8Size] else []) ++
        (laterStarts cs).map (c.utf8Size + ·) := by
  have hMoved :
      ((lineEnds cs).toList.map (c.utf8Size + ·)).filter
          (fun p =>
            decide (p < size (String.ofList (c :: cs)))) =
        (laterStarts cs).map (c.utf8Size + ·) := by
    rw [List.filter_map, size_ofList_cons]
    unfold laterStarts
    congr 1
    apply List.filter_congr
    intro p hp
    simp
  have hFirst :
      c.utf8Size < size (String.ofList (c :: cs)) ↔
        cs ≠ [] := by
    rw [size_ofList_cons]
    constructor
    · rintro hLt rfl
      exact absurd hLt (Nat.lt_irrefl _)
    · intro hSome
      exact Nat.lt_add_of_pos_right (size_ofList_pos hSome)
  unfold laterStarts at hMoved ⊢
  rw [lineEnds_cons, List.filter_append, hMoved]
  congr 1
  by_cases hc : c = '\n'
  · simp only [hc, if_true, true_and, List.filter_cons,
      List.filter_nil, decide_eq_true_eq] at hFirst ⊢
    simp only [hFirst]
  · simp only [hc, if_false, false_and, List.filter_nil]

/- They start where the lines before them end. -/
theorem getElem?_laterStarts
    (cs : List Char)
    (k : Nat) :
    (laterStarts cs)[k]?.getD (size (String.ofList cs)) =
      size (ofLines ((lines cs).take (k + 1))) := by
  induction cs generalizing k with
  | nil => simp [laterStarts, lineEnds, lines, ofLines]
  | cons c cs ih =>
      have hRest :
          ∀ j,
            ((laterStarts cs).map (c.utf8Size + ·))[j]?.getD
                (size (String.ofList (c :: cs))) =
              c.utf8Size +
                size (ofLines ((lines cs).take (j + 1))) := by
        intro j
        rw [List.getElem?_map, size_ofList_cons,
          Option.getD_map, ih]
      rw [laterStarts_cons]
      by_cases hc : c = '\n'
      · have hLine : size (String.ofList [c]) = c.utf8Size :=
          size_ofList_cons c []
        rw [lines, if_pos hc, List.take_succ_cons,
          size_ofLines_cons, hLine]
        by_cases hSome : cs = []
        · rw [if_neg (fun h => h.2 hSome), List.nil_append]
          subst hSome
          rw [hRest]
          simp [lines]
        · rw [if_pos ⟨hc, hSome⟩, List.singleton_append]
          cases k with
          | zero => rfl
          | succ k =>
              rw [List.getElem?_cons_succ]
              exact hRest k
      · rw [if_neg (fun h => hc h.1), List.nil_append,
          size_take_lines_cons hc, hRest]

/- A line starts where the lines before it end. -/
theorem lineStart_lineStarts
    (s : String)
    (k : Nat) :
    lineStart s (lineStarts s) k = offsetOfLine s k := by
  have hList :
      lineStart s (lineStarts s) k =
        (0 :: laterStarts s.toList)[k]?.getD (size s) := by
    unfold lineStart lineStarts laterStarts
    rw [Array.getD_eq_getD_getElem?, ← Array.getElem?_toList,
      Array.toList_append, Array.toList_filter,
      String.ofList_toList]
    rfl
  rw [hList]
  cases k with
  | zero => rfl
  | succ k =>
      have h := getElem?_laterStarts s.toList k
      rw [String.ofList_toList] at h
      exact h

end Text

end Reformat

------------------------------------------------------------
-- Cuts Between Lines
------------------------------------------------------------

namespace Reformat

namespace Text

/- Lines are put together one after the other. -/
theorem ofLines_append (a b : List (List Char)) :
    ofLines (a ++ b) = ofLines a ++ ofLines b := by
  unfold ofLines
  rw [List.flatten_append, String.ofList_append]

/- A text is what comes before a line and what follows. -/
theorem ofLines_take_append_drop
    (s : String)
    (k : Nat) :
    ofLines ((lines s.toList).take k) ++
        ofLines ((lines s.toList).drop k) =
      s := by
  rw [← ofLines_append, List.take_append_drop, ofLines,
    flatten_lines, String.ofList_toList]

/- No character is split where a line starts. -/
theorem isBoundary_offsetOfLine
    (s : String)
    (k : Nat) :
    IsBoundary s (offsetOfLine s k) :=
  (isBoundary_iff_exists _ _).mpr
    ⟨_, _, (ofLines_take_append_drop s k).symm, rfl⟩

/- A later line starts further on by the lines between. -/
theorem offsetOfLine_add
    (s : String)
    (first count : Nat) :
    offsetOfLine s (first + count) =
      offsetOfLine s first +
        size
          (ofLines
            (((lines s.toList).drop first).take count)) := by
  unfold offsetOfLine
  rw [List.take_add, ofLines_append, size,
    String.utf8ByteSize_append]

/- Later lines start no earlier. -/
theorem offsetOfLine_mono
    (s : String)
    {j k : Nat}
    (hLe : j ≤ k) :
    offsetOfLine s j ≤ offsetOfLine s k := by
  rcases Nat.exists_eq_add_of_le hLe with ⟨count, rfl⟩
  rw [offsetOfLine_add]
  exact Nat.le_add_right _ _

/- Past the last line there is the end of the text. -/
theorem offsetOfLine_of_length_le
    {s : String}
    {k : Nat}
    (hLast : (lines s.toList).length ≤ k) :
    offsetOfLine s k = size s := by
  have hAll := ofLines_take_append_drop s k
  rw [List.drop_eq_nil_of_le hLast] at hAll
  unfold offsetOfLine
  conv => rhs; rw [← hAll]
  simp [ofLines]

/- The bytes from one line's start to another's are lines. -/
theorem slice_lines
    (s : String)
    (first count : Nat) :
    slice s (offsetOfLine s first)
        (offsetOfLine s (first + count)) =
      ofLines (((lines s.toList).drop first).take count) := by
  let before := ofLines ((lines s.toList).take first)
  let rest := (lines s.toList).drop first
  have hText : s = before ++ ofLines rest :=
    (ofLines_take_append_drop s first).symm
  have hRest :
      ofLines rest =
        ofLines (rest.take count) ++
          ofLines (rest.drop count) := by
    rw [← ofLines_append, List.take_append_drop]
  have hDrop :
      dropBytes s (offsetOfLine s first) = ofLines rest := by
    have h := dropBytes_append before (ofLines rest)
    rw [← hText] at h
    exact h
  unfold slice
  rw [offsetOfLine_add, Nat.add_sub_cancel_left, hDrop,
    hRest]
  exact takeBytes_append _ _

/- A position on a line, where the first line is line one. -/
def OnLine
    (s : String)
    (line p : Nat) : Prop :=
  offsetOfLine s (line - 1) ≤ p ∧ p < offsetOfLine s line

/- Being on a line is decidable. -/
instance
    (s : String)
    (line p : Nat) :
    Decidable (OnLine s line p) := by
  unfold OnLine
  infer_instance

/- The positions from one line's start to another's. -/
theorem exists_onLine_iff
    (s : String)
    (first count p : Nat) :
    (∃ line,
        first < line ∧ line ≤ first + count ∧
          OnLine s line p) ↔
      offsetOfLine s first ≤ p ∧
        p < offsetOfLine s (first + count) := by
  constructor
  · rintro ⟨line, hFirst, hLast, hStart, hStop⟩
    have hLow :
        offsetOfLine s first ≤ offsetOfLine s (line - 1) :=
      offsetOfLine_mono s (by omega)
    have hHigh :
        offsetOfLine s line ≤
          offsetOfLine s (first + count) :=
      offsetOfLine_mono s hLast
    exact
      ⟨Nat.le_trans hLow hStart,
        Nat.lt_of_lt_of_le hStop hHigh⟩
  · rintro ⟨hStart, hStop⟩
    induction count with
    | zero => exact absurd hStop (Nat.not_lt_of_le hStart)
    | succ count ih =>
        by_cases hBefore :
            p < offsetOfLine s (first + count)
        · rcases ih hBefore with
            ⟨line, hFirst, hLast, hOn⟩
          exact
            ⟨line, hFirst, Nat.le_succ_of_le hLast, hOn⟩
        · exact
            ⟨first + count + 1, by omega, Nat.le_refl _,
              Nat.le_of_not_lt hBefore, hStop⟩

end Text

end Reformat
