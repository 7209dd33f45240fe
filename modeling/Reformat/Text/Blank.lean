import Reformat.Text.CharRange

/-
  Blank characters: the code points with the Unicode property
  White_Space, and the text without those at its ends.

  Key definitions include:
    * `Text.isBlank`
    * `Text.trim`
    * `Text.trimEnd`
    * `Text.allBlank`
-/

------------------------------------------------------------
-- The White_Space Property
------------------------------------------------------------

namespace Reformat

namespace Text

/- The code points with the property White_Space. -/
def blankRanges : List (Nat × Nat) :=
  [(0x9, 0xD), (0x20, 0x20), (0x85, 0x85), (0xA0, 0xA0), (0x1680, 0x1680),
    (0x2000, 0x200A), (0x2028, 0x2029), (0x202F, 0x202F), (0x205F, 0x205F),
    (0x3000, 0x3000)]

/- A character with the property White_Space. -/
def isBlank (c : Char) : Bool :=
  inRanges blankRanges c

end Text

end Reformat

------------------------------------------------------------
-- Blank Ends
------------------------------------------------------------

namespace Reformat

namespace Text

/- Characters without the blanks at the front. -/
def dropBlanks (cs : List Char) : List Char :=
  cs.dropWhile isBlank

/- Characters without the blanks at either end. -/
def trimChars (cs : List Char) : List Char :=
  (dropBlanks (dropBlanks cs).reverse).reverse

/- A text without the blanks at either end. -/
def trim (s : String) : String :=
  String.ofList (trimChars s.toList)

/- A text without the blanks at its end. -/
def trimEnd (s : String) : String :=
  String.ofList (dropBlanks s.toList.reverse).reverse

/- A text of blanks only, the empty text among them. -/
def allBlank (s : String) : Bool :=
  s.toList.all isBlank

/- What is dropped at the front is blank. -/
theorem takeWhile_append_dropBlanks (cs : List Char) :
    cs.takeWhile isBlank ++ dropBlanks cs = cs :=
  List.takeWhile_append_dropWhile

/- What is left after dropping starts with no blank. -/
theorem isBlank_head_dropBlanks
    {cs rest : List Char}
    {c : Char}
    (h : dropBlanks cs = c :: rest) :
    isBlank c = false := by
  induction cs with
  | nil => simp [dropBlanks] at h
  | cons d cs ih =>
      by_cases hd : isBlank d = true
      · simp only [dropBlanks, List.dropWhile_cons, hd,
          if_true] at h
        exact ih h
      · simp only [dropBlanks, List.dropWhile_cons, hd,
          Bool.false_eq_true, if_false,
          List.cons.injEq] at h
        simpa [h.1] using hd

end Text

end Reformat
