/-
  Finding pieces in a text.

  A reader recognises a piece at the front of some characters.
  `scan` goes through a text from the left, takes each piece
  that the reader recognises, and keeps what stands before it
  as its gap.

  Key definitions include:
    * `Markup.PieceReader`
    * `Markup.Pieces`
    * `Markup.scan`
-/

------------------------------------------------------------
-- Readers
------------------------------------------------------------

namespace Reformat

namespace Markup

/- A reader of pieces, none of which is empty. -/
structure PieceReader (α : Type) where
  read? : List Char → Option (α × List Char)
  shorter :
    ∀ {cs : List Char} {a : α} {rest : List Char},
      read? cs = some (a, rest) →
        rest.length < cs.length

/- The pieces of a text with their gaps, and the last gap. -/
structure Pieces (α : Type) where
  found : List (List Char × α)
  rest : List Char

variable {α : Type}

/-
  Scan a text: `gap` holds, in reverse, what was skipped since
  the last piece, and `found` the pieces so far.
-/
def scanFrom
    (reader : PieceReader α)
    (found : List (List Char × α))
    (gap : List Char)
    (cs : List Char) : Pieces α :=
  match cs with
  | [] => ⟨found.reverse, gap.reverse⟩
  | c :: cs =>
      match _h : reader.read? (c :: cs) with
      | some (a, rest) =>
          scanFrom reader ((gap.reverse, a) :: found) []
            rest
      | none => scanFrom reader found (c :: gap) cs
termination_by cs.length
decreasing_by
  · simpa using reader.shorter _h
  · simp

/- The pieces of a text, from the left. -/
def scan
    (reader : PieceReader α)
    (cs : List Char) : Pieces α :=
  scanFrom reader [] [] cs

end Markup

end Reformat
