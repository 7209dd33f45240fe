import Reformat.Json.Number

/-
  Getting past JSON values that nobody asked for.

  A value is checked against the grammar but not kept.  Open
  brackets are held on a stack, so nesting has no limit.

  Key definitions include:
    * `Json.Bracket`
    * `Json.skipValue`
-/

------------------------------------------------------------
-- Brackets
------------------------------------------------------------

namespace Reformat

namespace Json

/- What an open bracket holds. -/
inductive Bracket
  | list
  | object
deriving DecidableEq

/- The character that closes a bracket. -/
def Bracket.closing : Bracket → Char
  | .list => ']'
  | .object => '}'

/- What is not complete while a bracket is open. -/
def Bracket.inside : Bracket → Open
  | .list => .list
  | .object => .object

/- The fault when neither a comma nor the end follows. -/
def Bracket.expectedNext : Bracket → GrammarFault
  | .list => .expectedCommaOrBracket
  | .object => .expectedCommaOrBrace

end Json

end Reformat

------------------------------------------------------------
-- Parts Of Values
------------------------------------------------------------

namespace Reformat

namespace Json

/- Get past the colon after a key. -/
def skipColon
    (cs : List Char) : Except Error (List Char) :=
  match skipSpace cs with
  | [] => ended .object
  | c :: cs =>
      if c = ':' then .ok cs else broken .expectedColon

/- Get past what precedes a value inside a bracket. -/
def skipKey
    (b : Bracket)
    (cs : List Char) : Except Error (List Char) :=
  match b with
  | .list => .ok cs
  | .object =>
      match skipSpace cs with
      | [] => ended .object
      | c :: cs =>
          if c = '"' then do skipColon (← skipString cs)
          else broken .keyNotString

/- Get past a scalar, or into a bracket. -/
def skipScalar
    (cs : List Char) :
    Except Error (Option Bracket × List Char) :=
  match skipSpace cs with
  | [] => ended .value
  | c :: cs =>
      let scalar (r : Except Error (List Char)) :=
        r.map fun cs => (none, cs)
      if c = 'n' then scalar (word ['u', 'l', 'l'] cs)
      else if c = 't' then scalar (word ['r', 'u', 'e'] cs)
      else if c = 'f' then
        scalar (word ['a', 'l', 's', 'e'] cs)
      else if c = '"' then scalar (skipString cs)
      else if c = '-' || c.isDigit then
        scalar (skipNumber (c :: cs))
      else if c = '[' then .ok (some .list, cs)
      else if c = '{' then .ok (some .object, cs)
      else broken .expectedValue

end Json

end Reformat

------------------------------------------------------------
-- Values
------------------------------------------------------------

namespace Reformat

namespace Json

/- Where a value that is skipped has come to. -/
inductive Place
  | value
  | opened
  | after
deriving DecidableEq

/-
  Skip from some place on, with the brackets that are open.
  Each step gets past a character or opens a bracket that an
  earlier one got past, so `2 * n + 2` steps are enough for
  `n` characters.
-/
def skipFrom :
    Nat → List Bracket → Place → List Char →
      Except Error (List Char)
  | 0, _, _, _ => ended .value
  | steps + 1, brackets, .value, cs =>
      match skipScalar cs with
      | .error e => .error e
      | .ok (some b, cs) =>
          skipFrom steps (b :: brackets) .opened cs
      | .ok (none, cs) => skipFrom steps brackets .after cs
  | _ + 1, [], _, cs => .ok cs
  | steps + 1, b :: brackets, .opened, cs =>
      match skipSpace cs with
      | [] => ended b.inside
      | c :: cs =>
          if c = b.closing then
            skipFrom steps brackets .after cs
          else
            match skipKey b (c :: cs) with
            | .error e => .error e
            | .ok cs =>
                skipFrom steps (b :: brackets) .value cs
  | steps + 1, b :: brackets, .after, cs =>
      match skipSpace cs with
      | [] => ended b.inside
      | c :: cs =>
          if c = ',' then
            match skipKey b cs with
            | .error e => .error e
            | .ok cs =>
                skipFrom steps (b :: brackets) .value cs
          else if c = b.closing then
            skipFrom steps brackets .after cs
          else
            broken b.expectedNext

/- Get past a value of a text of at most `size` characters. -/
def skipValue
    (size : Nat)
    (cs : List Char) : Except Error (List Char) :=
  skipFrom (2 * size + 2) [] .value cs

end Json

end Reformat
