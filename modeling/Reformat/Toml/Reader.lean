import Reformat.Toml.Scalar
import Reformat.Toml.Text

/-
  Reading settings files.

  A file is a list of lines: headers, which open tables, and
  entries, which give a key a value in the table opened last.
  A line may end in a comment.  Inside brackets, line breaks
  and comments are space.

  Key definitions include:
    * `Toml.path?`
    * `Toml.value?`
    * `Toml.assignment?`
    * `Toml.read?`
-/

------------------------------------------------------------
-- Space
------------------------------------------------------------

namespace Reformat

namespace Toml

/- Text without space at the front. -/
def skipSpace (cs : List Char) : List Char :=
  cs.dropWhile isSpace

/-
  The end of the line after a comment, if there is one.  Only
  a line break may end a comment early.
-/
def skipComment? : List Char → Option (List Char)
  | '#' :: cs =>
      let rest := cs.dropWhile (!isControl ·)
      if rest.isEmpty || (lineBreak? rest).isSome then
        some rest
      else none
  | cs => some cs

/- Skipping a comment makes no text longer. -/
theorem length_skipComment?
    {cs rest : List Char}
    (h : skipComment? cs = some rest) :
    rest.length ≤ cs.length := by
  unfold skipComment? at h
  split at h
  · next cs =>
    dsimp only at h
    split at h
    · simp only [Option.some.injEq] at h
      have := (List.dropWhile_suffix
        (fun c => !isControl c) (l := cs)).length_le
      simp only [h] at this
      simp only [List.length_cons]
      omega
    · simp at h
  · simp only [Option.some.injEq] at h
    simp [h]

/- Text after space, comments and line breaks. -/
def skipGap? (cs : List Char) : Option (List Char) :=
  match _hc : skipComment? (skipSpace cs) with
  | none => none
  | some rest =>
      match _hb : lineBreak? rest with
      | none => some rest
      | some rest => skipGap? rest
termination_by cs.length
decreasing_by
  have h₁ := length_lineBreak? _hb
  have h₂ := length_skipComment? _hc
  have h₃ :=
    (List.dropWhile_suffix isSpace (l := cs)).length_le
  simp only [skipSpace] at h₂
  omega

/- Text after a mark. -/
def after?
    (mark : Char) : List Char → Option (List Char)
  | [] => none
  | c :: cs => if c = mark then some cs else none

end Toml

end Reformat

------------------------------------------------------------
-- Keys
------------------------------------------------------------

namespace Reformat

namespace Toml

/- A character of a key without quotes. -/
def isKeyChar (c : Char) : Bool :=
  c.isAlphanum || c = '_' || c = '-'

/- The key at the front, and what follows. -/
def key? : List Char → Option (String × List Char)
  | '"' :: cs => basicRest [] cs
  | '\'' :: cs => literalRest [] cs
  | cs =>
      let run := cs.takeWhile isKeyChar
      if run.isEmpty then none
      else some (String.ofList run, cs.dropWhile isKeyChar)

/- How many keys may have points between them. -/
def maxKeys : Nat := 80

/- A key and the keys of the tables that it lies in. -/
structure Path where
  tables : List String
  key : String

/-
  At most so many keys with points between them, and what
  follows them and the space after them.
-/
def pathWithin? :
    Nat → List Char → Option (Path × List Char)
  | 0, _ => none
  | size + 1, cs => do
      let (key, cs) ← key? (skipSpace cs)
      match skipSpace cs with
      | '.' :: cs => do
          let (path, cs) ← pathWithin? size cs
          pure (⟨key :: path.tables, path.key⟩, cs)
      | cs => pure (⟨[], key⟩, cs)

/- Keys with points between them, and what follows. -/
def path? (cs : List Char) : Option (Path × List Char) :=
  pathWithin? maxKeys cs

end Toml

end Reformat

------------------------------------------------------------
-- Values
------------------------------------------------------------

namespace Reformat

namespace Toml

/- How many brackets may be open at a time. -/
def maxDepth : Nat := 80

/- A way to read the value at the front. -/
abbrev ValueReader :=
  List Char → Option (Value × List Char)

/- A value without brackets at the front. -/
def plain? : ValueReader
  | '"' :: cs =>
      (string? ('"' :: cs)).map fun (s, cs) => (.string s, cs)
  | '\'' :: cs =>
      (string? ('\'' :: cs)).map fun (s, cs) => (.string s, cs)
  | cs => scalar? cs

/-
  A path, an equals sign and a value, with what may be skipped
  around the sign.
-/
def assignmentWith?
    (skip? : List Char → Option (List Char))
    (value? : ValueReader)
    (cs : List Char) :
    Option (Path × Value × List Char) := do
  let (path, cs) ← path? cs
  let cs ← after? '=' (← skip? cs)
  let (v, cs) ← value? (← skip? cs)
  pure (path, v, cs)

/- At most so many elements of an array, and what follows. -/
def elements?
    (value? : ValueReader) :
    Nat → List Char → Option (List Value × List Char)
  | 0, _ => none
  | size + 1, cs => do
      match ← skipGap? cs with
      | ']' :: cs => pure ([], cs)
      | cs => do
          let (v, cs) ← value? cs
          match ← skipGap? cs with
          | ']' :: cs => pure ([v], cs)
          | ',' :: cs => do
              let (vs, cs) ← elements? value? size cs
              pure (v :: vs, cs)
          | _ => none

/-
  At most so many entries of an inline table on top of those
  read before, and what follows.
-/
def members?
    (value? : ValueReader) :
    Nat → Table → List Char → Option (Table × List Char)
  | 0, _, _ => none
  | size + 1, t, cs => do
      match ← skipGap? cs with
      | '}' :: cs => pure (t, cs)
      | cs => do
          let (path, v, cs) ←
            assignmentWith? skipGap? value? cs
          let t ← t.insert? path.tables path.key v
          match ← skipGap? cs with
          | '}' :: cs => pure (t, cs)
          | ',' :: cs => members? value? size t cs
          | _ => none

/- A value with at most so many brackets open at a time. -/
def valueWithin? : Nat → ValueReader
  | 0, cs => plain? cs
  | depth + 1, '[' :: cs => do
      let (vs, cs) ←
        elements? (valueWithin? depth) (cs.length + 1) cs
      pure (.array vs, cs)
  | depth + 1, '{' :: cs => do
      let (t, cs) ←
        members? (valueWithin? depth) (cs.length + 1) [] cs
      pure (.table .inline t, cs)
  | _ + 1, cs => plain? cs

/- The value at the front, and what follows. -/
def value? : ValueReader :=
  valueWithin? maxDepth

/- The entry at the front of a line, and what follows. -/
def assignment?
    (cs : List Char) : Option (Path × Value × List Char) :=
  assignmentWith? (some ∘ skipSpace) value? cs

end Toml

end Reformat

------------------------------------------------------------
-- Lines
------------------------------------------------------------

namespace Reformat

namespace Toml

/- What was read so far, and the table opened last. -/
structure Progress where
  table : Table := []
  header : List String := []

namespace Progress

/- Open the table of a path. -/
def openTable?
    (p : Progress)
    (path : Path) : Option Progress := do
  let t ← p.table.openTable? path.tables path.key
  pure ⟨t, path.tables ++ [path.key]⟩

/- Open another row of a path. -/
def openRow?
    (p : Progress)
    (path : Path) : Option Progress := do
  let t ← p.table.openRow? path.tables path.key
  pure ⟨t, path.tables ++ [path.key]⟩

/- Add an entry to the table opened last. -/
def insert?
    (p : Progress)
    (path : Path)
    (v : Value) : Option Progress := do
  let t ←
    p.table.insertAt? p.header path.tables path.key v
  pure ⟨t, p.header⟩

/- Take in what a line says; the end of it is left. -/
def statement?
    (p : Progress) :
    List Char → Option (Progress × List Char)
  | '[' :: '[' :: cs => do
      let (path, cs) ← path? cs
      let cs ← after? ']' cs
      let cs ← after? ']' cs
      pure (← p.openRow? path, cs)
  | '[' :: cs => do
      let (path, cs) ← path? cs
      let cs ← after? ']' cs
      pure (← p.openTable? path, cs)
  | cs => do
      let (path, v, cs) ← assignment? cs
      pure (← p.insert? path v, cs)

/- Take in a line that may be empty; its break is left. -/
def line?
    (p : Progress)
    (cs : List Char) : Option (Progress × List Char) :=
  let cs := skipSpace cs
  if cs.isEmpty || cs.head? = some '#' ||
      (lineBreak? cs).isSome then
    (skipComment? cs).map (p, ·)
  else do
    let (p, cs) ← p.statement? cs
    let cs ← skipComment? (skipSpace cs)
    pure (p, cs)

/- Take in at most so many lines. -/
def lines? : Nat → Progress → List Char → Option Progress
  | 0, _, _ => none
  | size + 1, p, cs => do
      match ← p.line? cs with
      | (p, []) => pure p
      | (p, cs) => lines? size p (← lineBreak? cs)

end Progress

/- The character that may mark a file as Unicode. -/
def byteOrderMark : Char := '\uFEFF'

/- Read a file. -/
def read? (text : String) : Option Table :=
  let cs :=
    match text.toList with
    | [] => []
    | c :: cs => if c = byteOrderMark then cs else c :: cs
  (Progress.lines? (cs.length + 1) {} cs).map (·.table)

end Toml

end Reformat
