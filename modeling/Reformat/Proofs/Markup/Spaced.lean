import Mathlib.Data.List.Forall2
import Reformat.Markup.Scan
import Reformat.Text.Blank

/-
  Texts made of pieces with blanks around them.

  `Markup.scan` looks for pieces anywhere and keeps whatever
  stands between them.  When the reader of a piece recognises
  what is written as one and nothing else, and no piece begins
  with a blank, then a scan whose gaps are all blank has found
  the only way to read the text as a row of pieces.

  Key definitions include:
    * `Markup.Spaced`
    * `Markup.PieceReader.Reads`
    * `Markup.Pieces.IsSpaced`

  Main statements:
    * `Markup.Spaced.relate_iff`
    * `Markup.spaced_iff_scan`
-/

------------------------------------------------------------
-- Rows Of Pieces
------------------------------------------------------------

namespace Reformat

namespace Markup

variable {α : Type}

/-
  A text that is a row of pieces, each with some blanks before
  it, and blanks at the end.
-/
inductive Spaced
    (Written : List Char → α → Prop) :
    List Char → List α → Prop
  | nil
      {gap : List Char}
      (hGap : gap.all Text.isBlank = true) :
      Spaced Written gap []
  | cons
      {gap piece rest : List Char}
      {a : α}
      {as : List α}
      (hGap : gap.all Text.isBlank = true)
      (hPiece : Written piece a)
      (hRest : Spaced Written rest as) :
      Spaced Written (gap ++ piece ++ rest) (a :: as)

namespace Spaced

variable {Written : List Char → α → Prop}

/- A blank more in front changes nothing. -/
theorem blank_cons
    {c : Char}
    {cs : List Char}
    {as : List α}
    (hBlank : Text.isBlank c = true)
    (h : Spaced Written cs as) :
    Spaced Written (c :: cs) as := by
  cases h with
  | nil hGap =>
      exact Spaced.nil (by simp [hBlank, hGap])
  | @cons gap piece rest a as hGap hPiece hRest =>
      have hLonger :
          (c :: gap).all Text.isBlank = true := by
        rw [List.all_cons, hBlank, hGap]
        rfl
      exact Spaced.cons hLonger hPiece hRest

/-
  What is known of every character of the text may be used for
  each piece.
-/
theorem imp_of_forall_mem
    {Written' : List Char → α → Prop}
    {P : Char → Prop}
    {cs : List Char}
    {as : List α}
    (h : Spaced Written cs as)
    (hAll : ∀ c ∈ cs, P c)
    (hImp :
      ∀ piece a,
        Written piece a →
          (∀ c ∈ piece, P c) → Written' piece a) :
    Spaced Written' cs as := by
  induction h with
  | nil hGap => exact Spaced.nil hGap
  | cons hGap hPiece hRest ih =>
      simp only [List.mem_append, or_imp, forall_and] at hAll
      exact
        Spaced.cons hGap (hImp _ _ hPiece hAll.1.2)
          (ih hAll.2)

/- What holds in blanks and in pieces holds in a row. -/
theorem forall_mem
    {P : Char → Prop}
    {cs : List Char}
    {as : List α}
    (h : Spaced Written cs as)
    (hBlank : ∀ c, Text.isBlank c = true → P c)
    (hPieces :
      ∀ piece a, Written piece a → ∀ c ∈ piece, P c) :
    ∀ c ∈ cs, P c := by
  have hGaps :
      ∀ gap : List Char,
        gap.all Text.isBlank = true → ∀ c ∈ gap, P c := by
    intro gap hGap c hc
    exact hBlank c (List.all_eq_true.mp hGap c hc)
  induction h with
  | nil hGap => exact hGaps _ hGap
  | cons hGap hPiece hRest ih =>
      intro c hc
      simp only [List.mem_append] at hc
      rcases hc with (hc | hc) | hc
      · exact hGaps _ hGap c hc
      · exact hPieces _ _ hPiece c hc
      · exact ih c hc

/-
  A row whose pieces are read in two steps is a row for the
  first step, with each piece then read by the second.
-/
theorem relate_iff
    {β : Type}
    {Means : α → β → Prop}
    {Written' : List Char → β → Prop}
    (hSteps :
      ∀ piece b,
        Written' piece b ↔
          ∃ a, Written piece a ∧ Means a b)
    {cs : List Char}
    {bs : List β} :
    Spaced Written' cs bs ↔
      ∃ as,
        Spaced Written cs as ∧ List.Forall₂ Means as bs := by
  constructor
  · intro h
    induction h with
    | nil hGap => exact ⟨[], Spaced.nil hGap, .nil⟩
    | cons hGap hPiece hRest ih =>
        rcases (hSteps _ _).mp hPiece with
          ⟨a, hWritten, hMeans⟩
        rcases ih with ⟨as, hRow, hAll⟩
        exact
          ⟨a :: as, Spaced.cons hGap hWritten hRow,
            .cons hMeans hAll⟩
  · intro h
    rcases h with ⟨as, hRow, hAll⟩
    induction hRow generalizing bs with
    | nil hGap =>
        cases hAll
        exact Spaced.nil hGap
    | @cons gap piece rest a as hGap hPiece hRest ih =>
        cases hAll with
        | cons hMeans hAll =>
            have hPiece' :=
              (hSteps _ _).mpr ⟨a, hPiece, hMeans⟩
            exact Spaced.cons hGap hPiece' (ih hAll)

end Spaced

end Markup

end Reformat

------------------------------------------------------------
-- Scans
------------------------------------------------------------

namespace Reformat

namespace Markup

variable {α : Type}

/- Characters that were skipped before some pieces. -/
def Pieces.prepend
    (skipped : List Char)
    (p : Pieces α) : Pieces α :=
  match p.found with
  | [] => ⟨[], skipped ++ p.rest⟩
  | (gap, a) :: found =>
      ⟨(skipped ++ gap, a) :: found, p.rest⟩

/- Nothing but blanks stands around the pieces. -/
def Pieces.IsSpaced (p : Pieces α) : Prop :=
  (∀ piece ∈ p.found, piece.1.all Text.isBlank = true) ∧
    p.rest.all Text.isBlank = true

/- Skipping nothing changes nothing. -/
@[simp]
theorem Pieces.prepend_nil (p : Pieces α) :
    p.prepend [] = p := by
  rcases p with ⟨_ | ⟨⟨gap, a⟩, found⟩, rest⟩ <;> rfl

/- Skipping twice is skipping once. -/
theorem Pieces.prepend_prepend
    (first second : List Char)
    (p : Pieces α) :
    (p.prepend second).prepend first =
      p.prepend (first ++ second) := by
  rcases p with ⟨_ | ⟨⟨gap, a⟩, found⟩, rest⟩ <;>
    simp [Pieces.prepend]

/- Skipping leaves the pieces as they are. -/
@[simp]
theorem Pieces.map_snd_found_prepend
    (skipped : List Char)
    (p : Pieces α) :
    (p.prepend skipped).found.map Prod.snd =
      p.found.map Prod.snd := by
  rcases p with ⟨_ | ⟨⟨gap, a⟩, found⟩, rest⟩ <;> rfl

/- Only blanks may be skipped. -/
theorem Pieces.isSpaced_prepend_iff
    (skipped : List Char)
    (p : Pieces α) :
    (p.prepend skipped).IsSpaced ↔
      skipped.all Text.isBlank = true ∧ p.IsSpaced := by
  rcases p with ⟨_ | ⟨⟨gap, a⟩, found⟩, rest⟩
  · simp [Pieces.prepend, Pieces.IsSpaced]
  · simp only [Pieces.prepend, Pieces.IsSpaced,
      List.forall_mem_cons, List.all_append,
      Bool.and_eq_true, and_assoc]

/-
  What a scan has found and skipped so far stands in front of
  what it finds in the characters that are left.
-/
theorem scanFrom_eq
    (reader : PieceReader α)
    (found : List (List Char × α))
    (gap cs : List Char) :
    scanFrom reader found gap cs =
      ⟨found.reverse ++
          ((scan reader cs).prepend gap.reverse).found,
        ((scan reader cs).prepend gap.reverse).rest⟩ := by
  induction hSize : cs.length using Nat.strongRecOn
    generalizing found gap cs with
  | _ size ih =>
      cases cs with
      | nil => simp [scan, scanFrom, Pieces.prepend]
      | cons c cs =>
          have hScan :
              scan reader (c :: cs) =
                scanFrom reader [] [] (c :: cs) := rfl
          rw [hScan, scanFrom, scanFrom]
          split
          · next a rest hRead =>
            have hShorter : rest.length < size := by
              rw [← hSize]
              exact reader.shorter hRead
            rw [ih _ hShorter _ _ _ rfl,
              ih _ hShorter [([].reverse, a)] _ _ rfl]
            simp [Pieces.prepend]
          · have hShorter : cs.length < size := by
              rw [← hSize]
              exact Nat.lt_succ_self _
            rw [ih _ hShorter _ _ _ rfl,
              ih _ hShorter [] [c] _ rfl]
            simp only [List.reverse_cons, List.reverse_nil,
              List.nil_append, ← Pieces.prepend_prepend]

/- A piece at the front is found without a gap. -/
theorem scan_of_read
    {reader : PieceReader α}
    {cs rest : List Char}
    {a : α}
    (hRead : reader.read? cs = some (a, rest)) :
    scan reader cs =
      ⟨([], a) :: (scan reader rest).found,
        (scan reader rest).rest⟩ := by
  cases cs with
  | nil => exact absurd (reader.shorter hRead) (by simp)
  | cons c cs =>
      change scanFrom reader [] [] (c :: cs) = _
      rw [scanFrom]
      split
      · next a' rest' hRead' =>
        rw [hRead, Option.some.injEq, Prod.mk.injEq]
          at hRead'
        rcases hRead' with ⟨rfl, rfl⟩
        rw [scanFrom_eq]
        simp
      · next hNone => simp [hRead] at hNone

/- What no piece begins with is skipped. -/
theorem scan_of_not_read
    {reader : PieceReader α}
    {c : Char}
    {cs : List Char}
    (hRead : reader.read? (c :: cs) = none) :
    scan reader (c :: cs) =
      (scan reader cs).prepend [c] := by
  change scanFrom reader [] [] (c :: cs) = _
  rw [scanFrom]
  split
  · next hSome => simp [hRead] at hSome
  · rw [scanFrom_eq]
    simp

end Markup

end Reformat

------------------------------------------------------------
-- Scans Of Rows
------------------------------------------------------------

namespace Reformat

namespace Markup

variable {α : Type}

/-
  A reader that recognises at the front of a text exactly what
  is written as a piece, and nothing that begins with a blank.
-/
structure PieceReader.Reads
    (reader : PieceReader α)
    (Written : List Char → α → Prop) : Prop where
  complete :
    ∀ {piece : List Char} {a : α} (rest : List Char),
      Written piece a →
        reader.read? (piece ++ rest) = some (a, rest)
  sound :
    ∀ {cs : List Char} {a : α} {rest : List Char},
      reader.read? cs = some (a, rest) →
        ∃ piece, cs = piece ++ rest ∧ Written piece a
  blank :
    ∀ {c : Char} {cs : List Char},
      Text.isBlank c = true →
        reader.read? (c :: cs) = none

variable {reader : PieceReader α}
variable {Written : List Char → α → Prop}

/- Blanks in front are skipped. -/
theorem scan_gap_append
    (hReads : reader.Reads Written)
    {gap : List Char}
    (hGap : gap.all Text.isBlank = true)
    (cs : List Char) :
    scan reader (gap ++ cs) =
      (scan reader cs).prepend gap := by
  induction gap with
  | nil => simp
  | cons c gap ih =>
      rw [List.all_cons, Bool.and_eq_true] at hGap
      rw [List.cons_append,
        scan_of_not_read (hReads.blank hGap.1), ih hGap.2,
        Pieces.prepend_prepend, List.singleton_append]

/- A scan finds the pieces of a row. -/
theorem scan_of_spaced
    (hReads : reader.Reads Written)
    {cs : List Char}
    {as : List α}
    (h : Spaced Written cs as) :
    (scan reader cs).IsSpaced ∧
      (scan reader cs).found.map Prod.snd = as := by
  induction h with
  | @nil gap hGap =>
      have hScan := scan_gap_append hReads hGap []
      rw [List.append_nil] at hScan
      rw [hScan, Pieces.isSpaced_prepend_iff,
        Pieces.map_snd_found_prepend]
      exact
        ⟨⟨hGap, by simp [scan, scanFrom, Pieces.IsSpaced]⟩,
          by simp [scan, scanFrom]⟩
  | @cons gap piece rest a as hGap hPiece hRest ih =>
      rcases ih with ⟨⟨hFound, hEnd⟩, hMap⟩
      rw [List.append_assoc, scan_gap_append hReads hGap,
        scan_of_read (hReads.complete rest hPiece),
        Pieces.isSpaced_prepend_iff,
        Pieces.map_snd_found_prepend, List.map_cons, hMap]
      refine ⟨⟨hGap, ?_, hEnd⟩, rfl⟩
      intro piece hMem
      rcases List.mem_cons.mp hMem with hEq | hMem
      · rw [hEq]
        rfl
      · exact hFound piece hMem

/- A scan with blank gaps has read a row of pieces. -/
theorem spaced_of_scan
    (hReads : reader.Reads Written)
    {cs : List Char}
    (h : (scan reader cs).IsSpaced) :
    Spaced Written cs
      ((scan reader cs).found.map Prod.snd) := by
  induction hSize : cs.length using Nat.strongRecOn
    generalizing cs with
  | _ size ih =>
      cases cs with
      | nil =>
          have hNone :
              (scan reader []).found.map Prod.snd = [] := by
            simp [scan, scanFrom]
          rw [hNone]
          exact Spaced.nil List.all_nil
      | cons c cs =>
          cases hRead : reader.read? (c :: cs) with
          | none =>
              rw [scan_of_not_read hRead,
                Pieces.isSpaced_prepend_iff] at h
              rw [scan_of_not_read hRead,
                Pieces.map_snd_found_prepend]
              have hBlank : Text.isBlank c = true := by
                simpa using h.1
              have hShorter : cs.length < size := by
                rw [← hSize]
                exact Nat.lt_succ_self _
              exact (ih _ hShorter h.2 rfl).blank_cons hBlank
          | some next =>
              rcases next with ⟨a, rest⟩
              rcases hReads.sound hRead with
                ⟨piece, hEq, hPiece⟩
              have hShorter : rest.length < size := by
                rw [← hSize]
                exact reader.shorter hRead
              rw [scan_of_read hRead] at h ⊢
              have hRest : (scan reader rest).IsSpaced :=
                ⟨fun q hq =>
                  h.1 q (List.mem_cons_of_mem _ hq), h.2⟩
              have hRow :=
                Spaced.cons (List.all_nil) hPiece
                  (ih _ hShorter hRest rfl)
              rw [hEq, List.map_cons]
              exact hRow

/- Scanning with blank gaps and being a row are the same. -/
theorem spaced_iff_scan
    (hReads : reader.Reads Written)
    {cs : List Char}
    {as : List α} :
    Spaced Written cs as ↔
      (scan reader cs).IsSpaced ∧
        (scan reader cs).found.map Prod.snd = as := by
  constructor
  · exact scan_of_spaced hReads
  · intro h
    rcases h with ⟨hSpaced, rfl⟩
    exact spaced_of_scan hReads hSpaced

end Markup

end Reformat
