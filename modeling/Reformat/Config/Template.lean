import Reformat.Text.Find
import Reformat.Text.Letter
import Reformat.Text.Numeral

/-
  Texts with variables and a home directory in them.

  A variable is a dollar sign and a name, or a name in braces,
  there perhaps with a default for when it is not set.  A
  tilde at the front that the text itself begins with stands
  for the home directory.  What is put in is not read again.

  Key definitions include:
    * `Template.Piece`
    * `Template.pieces`
    * `Template.expand?`

  Main statements:
    * `Template.expand?_of_plain`: without a dollar sign and a
      tilde a text stands for itself.
-/

------------------------------------------------------------
-- Pieces
------------------------------------------------------------

namespace Reformat

namespace Template

/- A part of a text: some characters, or a variable. -/
inductive Piece
  | characters (cs : List Char)
  | variable (name : String) (default? : Option String)
deriving DecidableEq

/- A character of a variable's name. -/
def isNameChar (c : Char) : Bool :=
  Text.isAlphabetic c || Text.isNumeric c || c = '_'

/-
  The variable that braces hold.  A default must have a name
  before it.
-/
def inBraces (cs : List Char) : Piece :=
  match Text.splitOnce? [':', '-'] cs with
  | some (c :: name, default) =>
      .variable (String.ofList (c :: name))
        (some (String.ofList default))
  | _ => .variable (String.ofList cs) none

/-
  The piece that a dollar sign begins, and what follows it.
  One that begins no variable stands for itself, and so do two
  for a single one.
-/
def afterDollar : List Char → Piece × List Char
  | '$' :: cs => (.characters ['$'], cs)
  | '{' :: cs =>
      match Text.splitOnce? ['}'] cs with
      | some (inside, rest) => (inBraces inside, rest)
      | none => (.characters ['$', '{'], cs)
  | cs =>
      let name := cs.takeWhile isNameChar
      if name.isEmpty then (.characters ['$'], cs)
      else
        (.variable (String.ofList name) none,
          cs.dropWhile isNameChar)

/- What follows a piece is no longer than the text. -/
theorem length_afterDollar_le (cs : List Char) :
    (afterDollar cs).2.length ≤ cs.length := by
  unfold afterDollar
  split
  · simp
  · next cs =>
    split
    · next h =>
      have h := Text.splitOnce?_eq_some h
      simp only [h, List.length_cons, List.length_append]
      omega
    · simp
  · dsimp only
    split
    · simp
    · exact (List.dropWhile_suffix isNameChar).length_le

/- The pieces of a text. -/
def pieces : List Char → List Piece
  | [] => []
  | c :: cs =>
      if c = '$' then
        (afterDollar cs).1 :: pieces (afterDollar cs).2
      else
        .characters [c] :: pieces cs
termination_by cs => cs.length
decreasing_by
  · have := length_afterDollar_le cs
    simp only [List.length_cons]
    omega
  · simp

end Template

end Reformat

------------------------------------------------------------
-- Expansion
------------------------------------------------------------

namespace Reformat

namespace Template

/- What stands for a piece, given what is set. -/
def Piece.value?
    (setting? : String → Option String) :
    Piece → Option (List Char)
  | .characters cs => some cs
  | .variable name default? =>
      ((setting? name).or default?).map String.toList

/- A text with its variables replaced, if all can be. -/
def variables?
    (setting? : String → Option String)
    (cs : List Char) : Option (List Char) :=
  ((pieces cs).mapM (Piece.value? setting?)).map
    List.flatten

/- A text begins with a tilde. -/
def startsHome : List Char → Bool
  | '~' :: _ => true
  | _ => false

/- A text with the home directory for a tilde in front. -/
def inHome
    (home? : Option String) :
    List Char → List Char
  | ['~'] => (home?.map String.toList).getD ['~']
  | '~' :: '/' :: cs =>
      (home?.map String.toList).getD ['~'] ++ '/' :: cs
  | cs => cs

/-
  A text with its variables and its home directory replaced.
  A tilde that a variable brought along stays.
-/
def expand?
    (setting? : String → Option String)
    (home? : Option String)
    (text : String) : Option String := do
  let cs ← variables? setting? text.toList
  pure
    (String.ofList
      (if startsHome text.toList then inHome home? cs
      else cs))

/- The pieces of a text without variables. -/
theorem pieces_of_not_mem
    (cs : List Char)
    (h : '$' ∉ cs) :
    pieces cs = cs.map fun c => .characters [c] := by
  induction cs with
  | nil => simp [pieces]
  | cons c cs ih =>
      simp only [List.mem_cons, not_or] at h
      have hc : c ≠ '$' := fun e => h.1 e.symm
      simp [pieces, hc, ih h.2]

/- A text without variables stands for itself. -/
theorem variables?_of_not_mem
    (setting? : String → Option String)
    (cs : List Char)
    (h : '$' ∉ cs) :
    variables? setting? cs = some cs := by
  have hMap :
      (cs.map fun c => Piece.characters [c]).mapM
        (Piece.value? setting?) =
      some (cs.map fun c => [c]) := by
    clear h
    induction cs with
    | nil => rfl
    | cons c cs ih => simp [Piece.value?, ih]
  simp only [variables?, pieces_of_not_mem cs h, hMap,
    Option.map_some, Option.some.injEq]
  clear h hMap
  induction cs with
  | nil => rfl
  | cons c cs ih => simp [ih]

/- Without variables and a tilde a text stands for itself. -/
theorem expand?_of_plain
    (setting? : String → Option String)
    (home? : Option String)
    (text : String)
    (hDollar : '$' ∉ text.toList)
    (hHome : startsHome text.toList = false) :
    expand? setting? home? text = some text := by
  simp [expand?, variables?_of_not_mem _ _ hDollar, hHome]

end Template

end Reformat
