import Reformat.Json.Error
import Reformat.Text.Natural

/-
  The small parts of JSON texts: space, fixed words, strings.

  Each reader takes the characters from some place on and gives
  what it read together with the characters after it.  Strings
  are read in two ways: for their text, and only to get past
  them, when surrogates need not be paired.

  Key definitions include:
    * `Json.skipSpace`
    * `Json.word`
    * `Json.stringRest`
    * `Json.skipString`
-/

------------------------------------------------------------
-- Space And Words
------------------------------------------------------------

namespace Reformat

namespace Json

/- The error for a broken rule. -/
def broken
    {α : Type}
    (fault : GrammarFault) : Except Error α :=
  .error (.grammar fault)

/- The error for a text that ends too soon. -/
def ended
    {α : Type}
    (inside : Open) : Except Error α :=
  .error (.ended inside)

/- Space between the parts of a text. -/
def isSpace (c : Char) : Bool :=
  c = ' ' || c = '\n' || c = '\t' || c = '\r'

/- The characters from the next one that is no space. -/
def skipSpace (cs : List Char) : List Char :=
  cs.dropWhile isSpace

/- Read a fixed word. -/
def word :
    List Char → List Char → Except Error (List Char)
  | [], cs => .ok cs
  | _ :: _, [] => ended .value
  | w :: ws, c :: cs =>
      if c = w then word ws cs else broken .expectedIdent

end Json

end Reformat

------------------------------------------------------------
-- Escapes
------------------------------------------------------------

namespace Reformat

namespace Json

/- The number that four hexadecimal digits spell. -/
def hexNumber? (digits : List Char) : Option Nat :=
  Text.Natural.ofDigits? 16 Text.Natural.hexValue? digits

/-
  Read four hexadecimal digits.  The text ends too soon when
  fewer than four bytes are left of it.
-/
def hexEscape : List Char → Except Error (Nat × List Char)
  | a :: b :: c :: d :: cs =>
      match hexNumber? [a, b, c, d] with
      | some n => .ok (n, cs)
      | none => broken .invalidEscape
  | cs =>
      if 4 ≤ (String.ofList cs).utf8ByteSize then
        broken .invalidEscape
      else
        ended .string

/- The first half of a surrogate pair. -/
def isHighSurrogate (n : Nat) : Bool :=
  0xD800 ≤ n && n ≤ 0xDBFF

/- The second half of a surrogate pair. -/
def isLowSurrogate (n : Nat) : Bool :=
  0xDC00 ≤ n && n ≤ 0xDFFF

/- The character of a surrogate pair. -/
def pairChar (high low : Nat) : Char :=
  Char.ofNat
    ((high - 0xD800) * 0x400 + (low - 0xDC00) + 0x10000)

/- Read the second half of a pair. -/
def lowEscape
    (high : Nat) :
    List Char → Except Error (Char × List Char)
  | [] => ended .string
  | c :: cs =>
      if c ≠ '\\' then broken .unexpectedHexEnd
      else
        match cs with
        | [] => ended .string
        | c :: cs =>
            if c ≠ 'u' then broken .unexpectedHexEnd
            else
              match hexEscape cs with
              | .error e => .error e
              | .ok (low, cs) =>
                  if isLowSurrogate low then
                    .ok (pairChar high low, cs)
                  else
                    broken .loneSurrogate

/- Read a code unit, and a second one if it needs it. -/
def unicodeEscape (cs : List Char) : Except Error (Char × List Char) :=
  match hexEscape cs with
  | .error e => .error e
  | .ok (n, cs) =>
      if isLowSurrogate n then broken .loneSurrogate
      else if isHighSurrogate n then lowEscape n cs
      else .ok (Char.ofNat n, cs)

/- The character that a letter stands for. -/
def shortEscape? : Char → Option Char
  | '"' => some '"'
  | '\\' => some '\\'
  | '/' => some '/'
  | 'b' => some '\x08'
  | 'f' => some '\x0c'
  | 'n' => some '\n'
  | 'r' => some '\r'
  | 't' => some '\t'
  | _ => none

/- Read what follows a backslash. -/
def escape : List Char → Except Error (Char × List Char)
  | [] => ended .string
  | c :: cs =>
      if c = 'u' then unicodeEscape cs
      else
        match shortEscape? c with
        | some c => .ok (c, cs)
        | none => broken .invalidEscape

/- Get past what follows a backslash. -/
def skipEscape : List Char → Except Error (List Char)
  | [] => ended .string
  | c :: cs =>
      if c = 'u' then (hexEscape cs).map Prod.snd
      else
        match shortEscape? c with
        | some _ => .ok cs
        | none => broken .invalidEscape

/- What follows four digits is no longer than the text. -/
theorem length_hexEscape
    {cs rest : List Char}
    {n : Nat}
    (h : hexEscape cs = .ok (n, rest)) :
    rest.length ≤ cs.length := by
  unfold hexEscape at h
  split at h
  · split at h
    · simp only [Except.ok.injEq, Prod.mk.injEq] at h
      simp only [← h.2, List.length_cons]
      omega
    · simp [broken] at h
  · split at h <;> simp [broken, ended] at h

/- What follows a second half is no longer. -/
theorem length_lowEscape
    {high : Nat}
    {cs rest : List Char}
    {c : Char}
    (h : lowEscape high cs = .ok (c, rest)) :
    rest.length ≤ cs.length := by
  unfold lowEscape at h
  split at h
  · simp [ended] at h
  · split at h
    · simp [broken] at h
    · split at h
      · simp [ended] at h
      · split at h
        · simp [broken] at h
        · split at h
          · simp at h
          · next heq =>
            have hLe := length_hexEscape heq
            split at h
            · simp only [Except.ok.injEq,
                Prod.mk.injEq] at h
              rw [h.2] at hLe
              simp only [List.length_cons]
              omega
            · simp [broken] at h

/- What follows an escape is shorter than the text. -/
theorem length_escape
    {cs rest : List Char}
    {c : Char}
    (h : escape cs = .ok (c, rest)) :
    rest.length < cs.length := by
  unfold escape at h
  split at h
  · simp [ended] at h
  · split at h
    · unfold unicodeEscape at h
      split at h
      · simp at h
      · next heq =>
        have hLe := length_hexEscape heq
        split at h
        · simp [broken] at h
        · split at h
          · have hLow := length_lowEscape h
            simp only [List.length_cons]
            omega
          · simp only [Except.ok.injEq,
              Prod.mk.injEq] at h
            rw [h.2] at hLe
            simp only [List.length_cons]
            omega
    · split at h
      · simp only [Except.ok.injEq, Prod.mk.injEq] at h
        simp [← h.2]
      · simp [broken] at h

/- What follows a skipped escape is shorter. -/
theorem length_skipEscape
    {cs rest : List Char}
    (h : skipEscape cs = .ok rest) :
    rest.length < cs.length := by
  unfold skipEscape at h
  split at h
  · simp [ended] at h
  · split at h
    · next cs _ =>
      cases hHex : hexEscape cs with
      | error e => simp [hHex, Except.map] at h
      | ok found =>
          simp only [hHex, Except.map,
            Except.ok.injEq] at h
          have hLe := length_hexEscape hHex
          rw [h] at hLe
          simp only [List.length_cons]
          omega
    · split at h
      · simp only [Except.ok.injEq] at h
        simp [← h]
      · simp [broken] at h

end Json

end Reformat

------------------------------------------------------------
-- Strings
------------------------------------------------------------

namespace Reformat

namespace Json

/-
  Read a string after its opening quote; `done` holds the
  characters so far, in reverse.
-/
def stringFrom
    (done : List Char) :
    List Char → Except Error (String × List Char)
  | [] => ended .string
  | c :: cs =>
      if c = '"' then
        .ok (String.ofList done.reverse, cs)
      else if c = '\\' then
        match _h : escape cs with
        | .error e => .error e
        | .ok (c, rest) => stringFrom (c :: done) rest
      else if c < ' ' then
        broken .controlCharacter
      else
        stringFrom (c :: done) cs
termination_by cs => cs.length
decreasing_by
  · have := length_escape _h
    simp only [List.length_cons]
    omega
  · simp

/- Read a string after its opening quote. -/
def stringRest (cs : List Char) : Except Error (String × List Char) :=
  stringFrom [] cs

/- Get past a string after its opening quote. -/
def skipString : List Char → Except Error (List Char)
  | [] => ended .string
  | c :: cs =>
      if c = '"' then .ok cs
      else if c = '\\' then
        match _h : skipEscape cs with
        | .error e => .error e
        | .ok rest => skipString rest
      else if c < ' ' then
        broken .controlCharacter
      else
        skipString cs
termination_by cs => cs.length
decreasing_by
  · have := length_skipEscape _h
    simp only [List.length_cons]
    omega
  · simp

end Json

end Reformat
