import Reformat.History.Hunk
import Reformat.Proofs.Text.Natural

/-
  Diffs as they are written.

  A diff begins with lines that are no headers.  Then come its
  hunks, each a header and the lines below it, every one of
  these with a mark in front.  What stands behind the mark may
  be anything, a header too.

  Key definitions include:
    * `Hunk.NumeralWritten`, `Hunk.CountWritten`
    * `Hunk.HeaderWritten`
    * `Hunk.HunksWritten`
    * `Hunk.DiffWritten`

  Main statements:
    * `Hunk.ofLine?_of_written`
    * `Hunk.ofLine?_eq_none`
    * `Hunk.ofDiff_of_written`
-/

------------------------------------------------------------
-- Headers
------------------------------------------------------------

namespace Reformat

namespace Hunk

/- A number in decimal, with any zeros in front of it. -/
inductive NumeralWritten : List Char → Nat → Prop
  | intro
      {digits : List Char}
      (hSome : digits ≠ [])
      (hDigits : ∀ c ∈ digits, c.isDigit = true) :
      NumeralWritten digits (Nat.ofDigitChars 10 digits 0)

/- A number of lines, which may be left out when it is one. -/
inductive CountWritten : List Char → Nat → Prop
  | omitted : CountWritten [] 1
  | given
      {digits : List Char}
      {n : Nat}
      (hDigits : NumeralWritten digits n) :
      CountWritten (',' :: digits) n

/- A header, with its lines of the old text and of the new. -/
inductive HeaderWritten : List Char → Hunk → Prop
  | intro
      {oldStart oldCount newStart newCount : List Char}
      {a b : Nat}
      {h : Hunk}
      (hOldStart : NumeralWritten oldStart a)
      (hOldCount : CountWritten oldCount b)
      (hStart : NumeralWritten newStart h.start)
      (hCount : CountWritten newCount h.count)
      (heading : List Char) :
      HeaderWritten
        ("@@ -".toList ++
          (oldStart ++
            (oldCount ++
              (" +".toList ++
                (newStart ++
                  (newCount ++
                    (" @@".toList ++ heading)))))))
        h

end Hunk

end Reformat

------------------------------------------------------------
-- Hunks
------------------------------------------------------------

namespace Reformat

namespace Hunk

/- The marks in front of the lines of a hunk. -/
def marks : List Char :=
  ['+', '-', ' ', '\\']

/- A line below a header. -/
def BodyLine (line : List Char) : Prop :=
  ∃ mark ∈ marks, line.head? = some mark

/- Being below a header is decidable. -/
instance (line : List Char) : Decidable (BodyLine line) :=
  List.decidableBEx (fun mark => line.head? = some mark) marks

/- The lines of some hunks. -/
inductive HunksWritten :
    List (List Char) → List Hunk → Prop
  | nil : HunksWritten [] []
  | cons
      {header : List Char}
      {body rest : List (List Char)}
      {h : Hunk}
      {hs : List Hunk}
      (hHeader : HeaderWritten header h)
      (hBody : ∀ line ∈ body, BodyLine line)
      (hRest : HunksWritten rest hs) :
      HunksWritten (header :: (body ++ rest)) (h :: hs)

/-
  A diff, line by line.  Its last line feed may be missing.
-/
inductive DiffWritten (diff : String) :
    List Hunk → Prop
  | intro
      {preamble below : List (List Char)}
      {hs : List Hunk}
      (hPreamble :
        ∀ line ∈ preamble, ¬ "@@".toList <+: line)
      (hBelow : HunksWritten below hs)
      (hLines : ∀ line ∈ preamble ++ below, '\n' ∉ line)
      (hText :
        ∃ lineEnd ∈ [[], ['\n']],
          diff.toList ++ lineEnd =
            (preamble ++ below).flatMap (· ++ ['\n'])) :
      DiffWritten diff hs

end Hunk

end Reformat

------------------------------------------------------------
-- Reading Headers
------------------------------------------------------------

namespace Reformat

namespace Hunk

/- The digits of numbers are digits of some script. -/
theorem isDecimalDigit_of_isDigit
    {c : Char}
    (h : c.isDigit = true) :
    Text.isDecimalDigit c = true := by
  rw [Text.isDecimalDigit, h, Bool.true_or]

/- A numeral is read up to where the digits end. -/
theorem digits?_append
    {digits rest : List Char}
    {n : Nat}
    (h : NumeralWritten digits n)
    (hEnd :
      ∀ c ∈ rest.head?, Text.isDecimalDigit c = false) :
    digits? (digits ++ rest) = some (digits, rest) := by
  cases h with
  | intro hSome hDigits =>
      have hRun :
          ∀ c ∈ digits, Text.isDecimalDigit c = true :=
        fun c hc => isDecimalDigit_of_isDigit (hDigits c hc)
      unfold digits?
      rw [Text.takeWhile_run hRun hEnd,
        Text.dropWhile_run hRun hEnd]
      cases digits with
      | nil => exact absurd rfl hSome
      | cons c digits => rfl

/- The number of a numeral, if it is a word. -/
theorem number?_of_written
    {digits : List Char}
    {n : Nat}
    (h : NumeralWritten digits n)
    (hLimit : n < Word.limit) :
    number? digits = some n := by
  cases h with
  | intro hSome hDigits =>
      have hSpelled :=
        Text.Natural.Spelled.intro (Or.inl rfl) hSome
          hDigits hLimit
      have hRead :=
        (Text.Natural.read_eq_ok_iff _ _).mpr hSpelled
      unfold number?
      rw [← List.nil_append digits, hRead]
      rfl

/-
  A count is read up to the blank behind it, and says what it
  is written for.
-/
theorem countDigits_append
    {written : List Char}
    {n : Nat}
    (h : CountWritten written n)
    (rest : List Char) :
    ∃ count?,
      countDigits (written ++ ' ' :: rest) =
          (count?, ' ' :: rest) ∧
        (n < Word.limit →
          (count?.elim (some 1) number?) = some n) := by
  cases h with
  | omitted => exact ⟨none, rfl, fun _ => rfl⟩
  | @given digits n hDigits =>
      have hBlank :
          ∀ c ∈ (' ' :: rest).head?,
            Text.isDecimalDigit c = false := by
        intro c hc
        cases hc
        decide
      have hRead := digits?_append hDigits hBlank
      refine ⟨some digits, ?_, number?_of_written hDigits⟩
      rw [List.cons_append]
      simp only [countDigits, hRead]

/- No digit begins a count, nor the blank behind it. -/
theorem CountWritten.head?_append
    {written : List Char}
    {n : Nat}
    (h : CountWritten written n)
    (rest : List Char) :
    ∀ c ∈ (written ++ ' ' :: rest).head?,
      Text.isDecimalDigit c = false := by
  intro c hc
  cases h with
  | omitted =>
      cases hc
      decide
  | given hDigits =>
      cases hc
      decide

/- A header is read as the lines that it is written for. -/
theorem ofLine?_of_written
    {line : List Char}
    {h : Hunk}
    (hHeader : HeaderWritten line h)
    (hLimit : h.start + h.count < Word.limit) :
    ofLine? line = some h := by
  cases hHeader with
  | @intro oldStart oldCount newStart newCount a b h
      hOldStart hOldCount hStart hCount heading =>
      let behind := "@@".toList ++ heading
      let new := newStart ++ (newCount ++ ' ' :: behind)
      rcases countDigits_append hOldCount ('+' :: new) with
        ⟨oldCount?, hOld, -⟩
      rcases countDigits_append hCount behind with
        ⟨count?, hNew, hNumber⟩
      have hHeader :
          header?
              ("@@ -".toList ++
                (oldStart ++
                  (oldCount ++ ' ' :: '+' :: new))) =
            some (newStart, count?) := by
        have hOldDigits :=
          digits?_append hOldStart
            (hOldCount.head?_append ('+' :: new))
        have hNewDigits :=
          digits?_append hStart (hCount.head?_append behind)
        have hOpen :
            Text.after? "@@ -"
                ("@@ -".toList ++
                  (oldStart ++
                    (oldCount ++ ' ' :: '+' :: new))) =
              some
                (oldStart ++
                  (oldCount ++ ' ' :: '+' :: new)) :=
          (Text.after?_eq_some_iff _ _ _).mpr rfl
        have hPlus :
            Text.after? " +" (' ' :: '+' :: new) =
              some new :=
          (Text.after?_eq_some_iff _ _ _).mpr rfl
        have hClose :
            Text.after? " @@" (' ' :: behind) =
              some heading :=
          (Text.after?_eq_some_iff _ _ _).mpr rfl
        unfold header?
        rw [hOpen]
        simp only [Option.bind_eq_bind, Option.bind_some,
          hOldDigits, hOld, hPlus]
        rw [hNewDigits]
        simp only [Option.bind_some, hNew, hClose]
        rfl
      have hStartNumber : number? newStart = some h.start :=
        number?_of_written hStart (by omega)
      have hCountNumber :
          count?.elim (some 1) number? = some h.count :=
        hNumber (by omega)
      change ofLine? ("@@ -".toList ++ (oldStart ++
        (oldCount ++ ' ' :: '+' :: new))) = some h
      unfold ofLine?
      rw [hHeader]
      simp only [Option.bind_eq_bind, Option.bind_some,
        hStartNumber]
      cases count? with
      | none =>
          have hOne : 1 = h.count :=
            Option.some.inj hCountNumber
          simp only [hOne]
          rfl
      | some digits =>
          have hDigits : number? digits = some h.count :=
            hCountNumber
          simp only [hDigits]
          rfl

/- A line that does not begin as a header is none. -/
theorem ofLine?_eq_none
    {line : List Char}
    (hLine : ¬ "@@".toList <+: line) :
    ofLine? line = none := by
  have hHeader : header? line = none := by
    have hAfter : Text.after? "@@ -" line = none := by
      cases hAfter : Text.after? "@@ -" line with
      | none => rfl
      | some rest =>
          rw [(Text.after?_eq_some_iff _ _ _).mp hAfter]
            at hLine
          exact absurd ⟨' ' :: '-' :: rest, rfl⟩ hLine
    unfold header?
    rw [hAfter]
    rfl
  unfold ofLine?
  rw [hHeader]
  rfl

/- A line with a mark in front does not. -/
theorem BodyLine.not_startsHeader
    {line : List Char}
    (h : BodyLine line) :
    ¬ "@@".toList <+: line := by
  rcases h with ⟨mark, hMark, hHead⟩
  rintro ⟨rest, rfl⟩
  have hAt : '@' = mark := Option.some.inj hHead
  rw [← hAt] at hMark
  exact absurd hMark (by decide)

end Hunk

end Reformat

------------------------------------------------------------
-- Reading Diffs
------------------------------------------------------------

namespace Reformat

namespace Text

/- Parts that a separator follows are found again. -/
theorem splitOn_flatMap
    {separator : Char}
    {parts : List (List Char)}
    (hParts : ∀ part ∈ parts, separator ∉ part) :
    let split :=
      splitOn separator
        (parts.flatMap (· ++ [separator]))
    split.1 :: split.2 = parts ++ [[]] := by
  induction parts with
  | nil => rfl
  | cons part parts ih =>
      rw [List.forall_mem_cons] at hParts
      have hRest := ih hParts.2
      rw [List.flatMap_cons, List.append_assoc,
        List.singleton_append,
        splitOn_append_cons _ _ _ hParts.1]
      simp only at hRest ⊢
      rw [hRest, List.cons_append]

/- A separator at the end adds an empty part. -/
theorem splitOn_concat
    (separator : Char)
    (cs : List Char) :
    splitOn separator (cs ++ [separator]) =
      ((splitOn separator cs).1,
        (splitOn separator cs).2 ++ [[]]) := by
  induction cs with
  | nil => simp [splitOn]
  | cons c cs ih =>
      unfold splitOn at ih ⊢
      rw [List.cons_append, List.foldr_cons, ih,
        List.foldr_cons]
      split
      · rfl
      · rfl

end Text

namespace Hunk

/- The hunks of some lines are read off their headers. -/
theorem filterMap_of_written
    {lines : List (List Char)}
    {hs : List Hunk}
    (hWritten : HunksWritten lines hs)
    (hLimit : ∀ h ∈ hs, h.start + h.count < Word.limit) :
    lines.filterMap ofLine? = hs := by
  induction hWritten with
  | nil => rfl
  | @cons header body rest h hs hHeader hBody hRest ih =>
      rw [List.forall_mem_cons] at hLimit
      have hNone : body.filterMap ofLine? = [] := by
        apply List.filterMap_eq_nil_iff.mpr
        intro line hLine
        have hNot := (hBody line hLine).not_startsHeader
        exact ofLine?_eq_none hNot
      rw [List.filterMap_cons,
        ofLine?_of_written hHeader hLimit.1,
        List.filterMap_append, hNone, List.nil_append,
        ih hLimit.2]

/- A diff is read as the hunks that are written in it. -/
theorem ofDiff_of_written
    {diff : String}
    {hs : List Hunk}
    (hWritten : DiffWritten diff hs)
    (hLimit : ∀ h ∈ hs, h.start + h.count < Word.limit) :
    ofDiff diff = hs := by
  cases hWritten with
  | @intro preamble below hs hPreamble hBelow hLines hText =>
      let split := Text.splitOn '\n' diff.toList
      have hParts :
          (split.1 :: split.2).filterMap ofLine? =
            (preamble ++ below).filterMap ofLine? := by
        have hAll := Text.splitOn_flatMap hLines
        rcases hText with ⟨lineEnd, hEnd, hText⟩
        rw [← hText] at hAll
        simp only [List.mem_cons, List.not_mem_nil,
          or_false] at hEnd
        rcases hEnd with rfl | rfl
        · -- The part after the last line feed is no header.
          rw [List.append_nil] at hAll
          have hEmpty : ofLine? [] = none := rfl
          simp only [split, hAll, List.filterMap_append,
            List.filterMap_cons, hEmpty, List.filterMap_nil,
            List.append_nil]
        · rw [Text.splitOn_concat] at hAll
          have hSame : split.1 :: split.2 = preamble ++ below :=
            List.append_cancel_right hAll
          rw [hSame]
      have hNone : preamble.filterMap ofLine? = [] := by
        apply List.filterMap_eq_nil_iff.mpr
        intro line hLine
        exact ofLine?_eq_none (hPreamble line hLine)
      change (split.1 :: split.2).filterMap ofLine? = hs
      rw [hParts, List.filterMap_append, hNone,
        List.nil_append, filterMap_of_written hBelow hLimit]

end Hunk

end Reformat
