import Reformat.Text.Natural

/-
  Strings in settings files.

  A string stands in double quotes, with escapes, or in single
  quotes, without any.  In three quotes it may have several
  lines; a line feed right after them is left out, and up to
  two more quotes at the end belong to the string.

  Key definitions include:
    * `Toml.basicRest`
    * `Toml.literalRest`
    * `Toml.basicLinesRest`
    * `Toml.literalLinesRest`
    * `Toml.string?`
-/

------------------------------------------------------------
-- Characters
------------------------------------------------------------

namespace Reformat

namespace Toml

/- A control character other than the tab. -/
def isControl (c : Char) : Bool :=
  (c < ' ' && c ≠ '\t') || c = '\x7f'

/- Space on a line. -/
def isSpace (c : Char) : Bool :=
  c = ' ' || c = '\t'

/- The text after a line break at the front. -/
def lineBreak? : List Char → Option (List Char)
  | '\n' :: cs => some cs
  | '\r' :: '\n' :: cs => some cs
  | _ => none

end Toml

end Reformat

------------------------------------------------------------
-- Escapes
------------------------------------------------------------

namespace Reformat

namespace Toml

/- The character whose code some digits spell. -/
def codeEscape?
    (width : Nat)
    (cs : List Char) :
    Option (Char × List Char) := do
  let ds := cs.take width
  if ds.length = width then
    let code ←
      Text.Natural.ofDigits? 16 Text.Natural.hexValue? ds
    if code.isValidChar then
      some (Char.ofNat code, cs.drop width)
    else none
  else none

/- The character that a letter stands for. -/
def shortEscape? : Char → Option Char
  | '"' => some '"'
  | '\\' => some '\\'
  | 'b' => some '\x08'
  | 'e' => some '\x1b'
  | 'f' => some '\x0c'
  | 'n' => some '\n'
  | 'r' => some '\r'
  | 't' => some '\t'
  | _ => none

/- The number of digits after a letter. -/
def codeWidth? : Char → Option Nat
  | 'x' => some 2
  | 'u' => some 4
  | 'U' => some 8
  | _ => none

/- The character of an escape, its backslash apart. -/
def escape? : List Char → Option (Char × List Char)
  | [] => none
  | c :: cs =>
      match codeWidth? c with
      | some width => codeEscape? width cs
      | none => (shortEscape? c).map (·, cs)

/- What follows an escape is shorter. -/
theorem length_escape?
    {cs rest : List Char}
    {c : Char}
    (h : escape? cs = some (c, rest)) :
    rest.length < cs.length := by
  unfold escape? at h
  split at h
  · simp at h
  · split at h
    · simp only [codeEscape?] at h
      split at h
      · simp only [Option.bind_eq_bind,
          Option.bind_eq_some_iff] at h
        obtain ⟨code, -, h⟩ := h
        split at h
        · simp only [Option.some.injEq,
            Prod.mk.injEq] at h
          simp only [← h.2, List.length_drop,
            List.length_cons]
          omega
        · simp at h
      · simp at h
    · simp only [Option.map_eq_some_iff,
        Prod.mk.injEq] at h
      obtain ⟨-, -, -, rfl⟩ := h
      simp

/-
  The text after a backslash at the end of a line, and after
  all space and line breaks from there on.
-/
def lineEnd? (cs : List Char) : Option (List Char) :=
  match lineBreak? (cs.dropWhile isSpace) with
  | none => none
  | some cs => some (dropLines cs)
where
  /- Drop space and line breaks. -/
  dropLines : List Char → List Char
    | '\r' :: '\n' :: cs => dropLines cs
    | c :: cs =>
        if isSpace c || c = '\n' then dropLines cs
        else c :: cs
    | [] => []

end Toml

end Reformat

------------------------------------------------------------
-- Strings On A Line
------------------------------------------------------------

namespace Reformat

namespace Toml

/-
  The rest of a string in double quotes; `done` holds what was
  read of it, in reverse.
-/
def basicRest
    (done : List Char) :
    List Char → Option (String × List Char)
  | [] => none
  | c :: cs =>
      if c = '"' then some (String.ofList done.reverse, cs)
      else if c = '\\' then
        match _h : escape? cs with
        | none => none
        | some (c, rest) => basicRest (c :: done) rest
      else if isControl c then none
      else basicRest (c :: done) cs
termination_by cs => cs.length
decreasing_by
  · have := length_escape? _h
    simp only [List.length_cons]
    omega
  · simp

/- The rest of a string in single quotes. -/
def literalRest
    (done : List Char) :
    List Char → Option (String × List Char)
  | [] => none
  | c :: cs =>
      if c = '\'' then some (String.ofList done.reverse, cs)
      else if isControl c then none
      else literalRest (c :: done) cs

end Toml

end Reformat

------------------------------------------------------------
-- Strings On Several Lines
------------------------------------------------------------

namespace Reformat

namespace Toml

/- Up to two quotes that still belong to a string, and what
  follows. -/
def lastQuotes
    (quote : Char)
    (done cs : List Char) : String × List Char :=
  let more := (cs.takeWhile (· = quote)).take 2
  (String.ofList (done.reverse ++ more), cs.drop more.length)

/- Dropping line ends makes no text longer. -/
theorem length_dropLines_le (cs : List Char) :
    (lineEnd?.dropLines cs).length ≤ cs.length := by
  fun_induction lineEnd?.dropLines cs with
  | case1 cs ih =>
      simp only [List.length_cons]
      omega
  | case2 c cs _ _ ih =>
      simp only [List.length_cons]
      omega
  | case3 => simp
  | case4 => simp

/- What follows a line break is no longer than the text. -/
theorem length_lineBreak?
    {cs rest : List Char}
    (h : lineBreak? cs = some rest) :
    rest.length < cs.length := by
  unfold lineBreak? at h
  split at h
  · simp only [Option.some.injEq] at h
    simp [← h]
  · simp only [Option.some.injEq] at h
    simp only [← h, List.length_cons]
    omega
  · simp at h

/- What follows the end of a line is shorter. -/
theorem length_lineEnd?
    {cs rest : List Char}
    (h : lineEnd? cs = some rest) :
    rest.length < cs.length := by
  unfold lineEnd? at h
  split at h
  · simp at h
  · next cs' heq =>
    simp only [Option.some.injEq] at h
    have h₁ := length_lineBreak? heq
    have h₂ := length_dropLines_le cs'
    have h₃ :=
      (List.dropWhile_suffix isSpace (l := cs)).length_le
    rw [h] at h₂
    omega

/- The rest of a string in three double quotes. -/
def basicLinesRest
    (done : List Char) :
    List Char → Option (String × List Char)
  | [] => none
  | '"' :: '"' :: '"' :: cs =>
      some (lastQuotes '"' done cs)
  | '\r' :: '\n' :: cs =>
      basicLinesRest ('\n' :: '\r' :: done) cs
  | c :: cs =>
      if c = '\\' then
        match _hEnd : lineEnd? cs with
        | some rest => basicLinesRest done rest
        | none =>
            match _h : escape? cs with
            | none => none
            | some (c, rest) =>
                basicLinesRest (c :: done) rest
      else if isControl c && c ≠ '\n' then none
      else basicLinesRest (c :: done) cs
termination_by cs => cs.length
decreasing_by
  · simp only [List.length_cons]
    omega
  · have := length_lineEnd? _hEnd
    simp only [List.length_cons]
    omega
  · have := length_escape? _h
    simp only [List.length_cons]
    omega
  · simp

/- The rest of a string in three single quotes. -/
def literalLinesRest
    (done : List Char) :
    List Char → Option (String × List Char)
  | [] => none
  | '\'' :: '\'' :: '\'' :: cs =>
      some (lastQuotes '\'' done cs)
  | '\r' :: '\n' :: cs =>
      literalLinesRest ('\n' :: '\r' :: done) cs
  | c :: cs =>
      if isControl c && c ≠ '\n' then none
      else literalLinesRest (c :: done) cs

/- Text without a line break at the front. -/
def dropFirstBreak (cs : List Char) : List Char :=
  (lineBreak? cs).getD cs

end Toml

end Reformat

------------------------------------------------------------
-- Strings
------------------------------------------------------------

namespace Reformat

namespace Toml

/- The string at the front, and what follows. -/
def string? : List Char → Option (String × List Char)
  | '"' :: '"' :: '"' :: cs =>
      basicLinesRest [] (dropFirstBreak cs)
  | '"' :: cs => basicRest [] cs
  | '\'' :: '\'' :: '\'' :: cs =>
      literalLinesRest [] (dropFirstBreak cs)
  | '\'' :: cs => literalRest [] cs
  | _ => none

end Toml

end Reformat
