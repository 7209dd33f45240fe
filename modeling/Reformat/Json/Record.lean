import Reformat.Json.Skip

/-
  Reading records of scalars from JSON texts.

  A record is written as an object, whose unknown keys are
  passed over, or as a list of its fields in order.  A field
  with a default may be left out.

  Key definitions include:
    * `Json.Kind`
    * `Json.Scalar`
    * `Json.Record`
    * `Json.Record.read`
-/

------------------------------------------------------------
-- Scalars
------------------------------------------------------------

namespace Reformat

namespace Json

/- The kinds of scalars that fields hold. -/
inductive Kind
  | word
  | boolean
  | text
deriving DecidableEq

/- A scalar of one of the kinds. -/
inductive Scalar
  | word (n : Nat)
  | boolean (b : Bool)
  | text (s : String)
deriving DecidableEq

/- A kind as it is named in errors. -/
def Kind.expected : Kind → String
  | .word => "usize"
  | .boolean => "a boolean"
  | .text => "a string"

/- The error for a value of another kind than expected. -/
def wrongType
    {α : Type}
    (expected : String)
    (found : Found) : Except Error α :=
  .error (.mismatch (.invalidType found expected))

/-
  The error at a value that is not what was expected.  A
  scalar is read to the end first, and what is wrong with it
  comes before what it is.
-/
def mismatchAt
    {α : Type}
    (expected : String)
    (cs : List Char) : Except Error α :=
  match cs with
  | [] => broken .expectedValue
  | c :: cs =>
      if c = 'n' then do
        let _ ← word ['u', 'l', 'l'] cs
        wrongType expected .null
      else if c = 't' then do
        let _ ← word ['r', 'u', 'e'] cs
        wrongType expected (.boolean true)
      else if c = 'f' then do
        let _ ← word ['a', 'l', 's', 'e'] cs
        wrongType expected (.boolean false)
      else if c = '-' || c.isDigit then do
        let (n, _) ← number (c :: cs)
        wrongType expected n.found
      else if c = '"' then do
        let (s, _) ← stringRest cs
        wrongType expected (.string s)
      else if c = '[' then wrongType expected .sequence
      else if c = '{' then wrongType expected .map
      else broken .expectedValue

/- Read a number that is a word. -/
def readWord (cs : List Char) : Except Error (Scalar × List Char) :=
  match number cs with
  | .error e => .error e
  | .ok (.natural n, cs) => .ok (.word n, cs)
  | .ok (.negative n, _) =>
      .error
        (.mismatch
          (.invalidValue (.integer (-n)) Kind.word.expected))
  | .ok (.float x, _) =>
      wrongType Kind.word.expected (Number.float x).found

/- Read a truth value. -/
def readBoolean (cs : List Char) : Except Error (Scalar × List Char) :=
  match cs with
  | 't' :: cs =>
      (word ['r', 'u', 'e'] cs).map (.boolean true, ·)
  | 'f' :: cs =>
      (word ['a', 'l', 's', 'e'] cs).map (.boolean false, ·)
  | cs => mismatchAt Kind.boolean.expected cs

/- Read a string. -/
def readText (cs : List Char) : Except Error (Scalar × List Char) :=
  match cs with
  | '"' :: cs =>
      (stringRest cs).map fun (s, cs) => (.text s, cs)
  | cs => mismatchAt Kind.text.expected cs

/- A character that a number may begin with. -/
def startsNumber : List Char → Bool
  | [] => false
  | c :: _ => c = '-' || c.isDigit

/- Read a scalar of a kind. -/
def readScalar
    (kind : Kind)
    (cs : List Char) : Except Error (Scalar × List Char) :=
  match skipSpace cs with
  | [] => ended .value
  | cs =>
      match kind with
      | .word =>
          if startsNumber cs then readWord cs
          else mismatchAt Kind.word.expected cs
      | .boolean => readBoolean cs
      | .text => readText cs

end Json

end Reformat

------------------------------------------------------------
-- Records
------------------------------------------------------------

namespace Reformat

namespace Json

/- A field of a record. -/
structure Field where
  name : String
  kind : Kind
  default? : Option Scalar := none

/- The name and the fields of a record. -/
structure Record where
  name : String
  fields : List Field

namespace Record

/- A record as it is named in errors. -/
def expected (r : Record) : String :=
  "struct " ++ r.name

/- A record and its size as they are named in errors. -/
def expectedSize (r : Record) : String :=
  s!"{r.expected} with {r.fields.length} elements"

/- The field of a name. -/
def field?
    (r : Record)
    (name : String) : Option Field :=
  r.fields.find? fun f => f.name == name

end Record

end Json

end Reformat

------------------------------------------------------------
-- Lists Of Fields
------------------------------------------------------------

namespace Reformat

namespace Json

/-
  Look for another element of a list.  The comma before it is
  got past, the end of the list is not.
-/
def nextElement
    (first : Bool)
    (cs : List Char) : Except Error (Bool × List Char) :=
  match skipSpace cs with
  | [] => ended .list
  | ']' :: cs => .ok (false, ']' :: cs)
  | c :: cs =>
      if first then .ok (true, c :: cs)
      else if c = ',' then
        match skipSpace cs with
        | [] => ended .value
        | ']' :: _ => broken .trailingComma
        | cs => .ok (true, cs)
      else
        broken .expectedCommaOrBracket

/- Read the fields of a record from a list. -/
def readElements
    (r : Record)
    (first : Bool)
    (index : Nat) :
    List Field → List Char →
      Except Error (List Scalar × List Char)
  | [], cs => .ok ([], cs)
  | f :: fields, cs => do
      match ← nextElement first cs with
      | (true, cs) =>
          let (value, cs) ← readScalar f.kind cs
          let (values, cs) ←
            readElements r false (index + 1) fields cs
          .ok (value :: values, cs)
      | (false, cs) =>
          match f.default? with
          | none =>
              .error
                (.mismatch
                  (.invalidLength index r.expectedSize))
          | some value =>
              let (values, cs) ←
                readElements r first (index + 1) fields cs
              .ok (value :: values, cs)

/- Get past the end of a list that was read. -/
def endList (cs : List Char) : Except Error (List Char) :=
  match skipSpace cs with
  | [] => ended .list
  | ']' :: cs => .ok cs
  | ',' :: cs =>
      match skipSpace cs with
      | ']' :: _ => broken .trailingComma
      | _ => broken .trailingCharacters
  | _ :: _ => broken .trailingCharacters

end Json

end Reformat

------------------------------------------------------------
-- Members Of Objects
------------------------------------------------------------

namespace Reformat

namespace Json

/-
  Look for another member of an object: the characters after
  the opening quote of its key, or after the object.
-/
def nextMember
    (first : Bool)
    (cs : List Char) : Except Error (Bool × List Char) :=
  match skipSpace cs with
  | [] => ended .object
  | '}' :: cs => .ok (false, cs)
  | c :: cs =>
      if first then
        if c = '"' then .ok (true, cs)
        else broken .keyNotString
      else if c = ',' then
        match skipSpace cs with
        | [] => ended .value
        | '"' :: cs => .ok (true, cs)
        | '}' :: _ => broken .trailingComma
        | _ :: _ => broken .keyNotString
      else
        broken .expectedCommaOrBrace

/- Read the members of an object, known ones as scalars. -/
def readMembers
    (r : Record)
    (first : Bool)
    (values : List (String × Scalar)) :
    Nat → List Char →
      Except Error (List (String × Scalar) × List Char)
  | 0, _ => ended .object
  | size + 1, cs => do
      match ← nextMember first cs with
      | (false, cs) => .ok (values, cs)
      | (true, cs) =>
          let (key, cs) ← stringRest cs
          match r.field? key with
          | none =>
              let cs ← skipValue (size + 1) (← skipColon cs)
              readMembers r false values size cs
          | some f =>
              if (values.lookup key).isSome then
                .error (.mismatch (.duplicateField key))
              else
                let (value, cs) ←
                  readScalar f.kind (← skipColon cs)
                readMembers r false ((key, value) :: values)
                  size cs

/- The values of all fields, in order. -/
def collect
    (values : List (String × Scalar)) :
    List Field → Except Error (List Scalar)
  | [] => .ok []
  | f :: fields =>
      match values.lookup f.name, f.default? with
      | some value, _ =>
          (collect values fields).map (value :: ·)
      | none, some value =>
          (collect values fields).map (value :: ·)
      | none, none =>
          .error (.mismatch (.missingField f.name))

end Json

end Reformat

------------------------------------------------------------
-- Whole Texts
------------------------------------------------------------

namespace Reformat

namespace Json

/- Nothing but space follows a value. -/
def endText
    {α : Type}
    (value : α)
    (cs : List Char) : Except Error α :=
  match skipSpace cs with
  | [] => .ok value
  | _ :: _ => broken .trailingCharacters

/- Read a text that is a record: its values in order. -/
def Record.read
    (r : Record)
    (text : List Char) : Except Error (List Scalar) :=
  match skipSpace text with
  | [] => ended .value
  | '[' :: cs => do
      let (values, cs) ← readElements r true 0 r.fields cs
      endText values (← endList cs)
  | '{' :: cs => do
      let (values, cs) ←
        readMembers r true [] (cs.length + 1) cs
      let values ← collect values r.fields
      endText values cs
  | cs => mismatchAt r.expected cs

end Json

end Reformat
