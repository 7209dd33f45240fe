import Reformat.Request.Scope
import Reformat.Text.Affix
import Reformat.Text.Cut
import Reformat.Text.Natural
import Reformat.Text.Numeral
import Reformat.Text.Split
import Reformat.Word

/-
  The changed parts of a text, from the hunk headers of a diff.

  A header names the first line of a change in the new text and
  the number of lines, which is one unless given.  A change
  without lines stands after the line that it names.  Where the
  number behind the last line is too large to be a word, the
  program breaks down.

  Key definitions include:
    * `Hunk`
    * `Hunk.ofLine?`
    * `Hunk.ofDiff`
    * `Hunk.spanFrom?`
    * `Hunk.spans?`
-/

------------------------------------------------------------
-- Headers
------------------------------------------------------------

namespace Reformat

/- The lines of the new text that a hunk is about. -/
structure Hunk where
  start : Nat
  count : Nat
deriving DecidableEq

namespace Hunk

/- The digits at the front, at least one, and what follows. -/
def digits?
    (cs : List Char) :
    Option (List Char × List Char) :=
  match cs.takeWhile Text.isDecimalDigit with
  | [] => none
  | ds => some (ds, cs.dropWhile Text.isDecimalDigit)

/- The digits after a comma, if there are any, and what
  follows. -/
def countDigits
    (cs : List Char) :
    Option (List Char) × List Char :=
  match cs with
  | ',' :: rest =>
      match digits? rest with
      | some (ds, rest) => (some ds, rest)
      | none => (none, cs)
  | _ => (none, cs)

/- The digits of a start line and of a count. -/
def header?
    (line : List Char) :
    Option (List Char × Option (List Char)) := do
  let cs ← Text.after? "@@ -" line
  let (_, cs) ← digits? cs
  let (_, cs) := countDigits cs
  let cs ← Text.after? " +" cs
  let (start, cs) ← digits? cs
  let (count?, cs) := countDigits cs
  let _ ← Text.after? " @@" cs
  pure (start, count?)

/- The number of some digits, if it is a word. -/
def number? (digits : List Char) : Option Nat :=
  (Text.Natural.read digits).toOption

/- The hunk whose header a line begins with. -/
def ofLine? (line : List Char) : Option Hunk := do
  let (start, count?) ← header? line
  let start ← number? start
  match count? with
  | none => pure ⟨start, 1⟩
  | some count => pure ⟨start, ← number? count⟩

/- The hunks of a diff, in order. -/
def ofDiff (diff : String) : List Hunk :=
  let (first, others) := Text.splitOn '\n' diff.toList
  (first :: others).filterMap ofLine?

end Hunk

end Reformat

------------------------------------------------------------
-- Lines
------------------------------------------------------------

namespace Reformat

namespace Text

/- The offsets after all line feeds, in order. -/
def lineEnds
    (cs : List Char) : Array Nat :=
  (cs.foldl
    (fun (ends, here) c =>
      let next := here + c.utf8Size
      if c = '\n' then (ends.push next, next)
      else (ends, next))
    (#[], 0)).1

/- Where the lines of a text start.  A line feed at the very
  end starts no line. -/
def lineStarts (text : String) : Array Nat :=
  #[0] ++
    (lineEnds text.toList).filter (· < size text)

/- Where a line starts, counted from zero; the end of the text
  for lines that it does not have. -/
def lineStart
    (text : String)
    (starts : Array Nat)
    (line : Nat) : Nat :=
  starts.getD line (size text)

end Text

end Reformat

------------------------------------------------------------
-- Spans
------------------------------------------------------------

namespace Reformat

namespace Hunk

/- The first line of a hunk, counted from zero. -/
def firstLine (h : Hunk) : Nat :=
  if h.count = 0 then h.start else h.start - 1

/- The bytes of a hunk's lines, unless the number behind the
  last one is no word. -/
def spanFrom?
    (text : String)
    (starts : Array Nat)
    (h : Hunk) : Option Span := do
  let behind ← Word.add? h.firstLine h.count
  pure
    ⟨Text.lineStart text starts h.firstLine,
      Text.lineStart text starts behind⟩

/- The bytes that the hunks of a diff changed, unless one of
  them has a number that is no word. -/
def spans?
    (diff text : String) : Option (List Span) :=
  let starts := Text.lineStarts text
  (ofDiff diff).mapM (spanFrom? text starts)

end Hunk

end Reformat
