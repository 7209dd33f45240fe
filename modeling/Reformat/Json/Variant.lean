import Reformat.Json.Record

/-
  Names of choices in JSON texts.

  A choice is written as a string, or as an object with one
  key, whose value is null.

  Key definitions include:
    * `Json.readVariant`
-/

------------------------------------------------------------
-- Variants
------------------------------------------------------------

namespace Reformat

namespace Json

/- Read the name of a choice. -/
def variantName
    (known : List String)
    (cs : List Char) : Except Error (String × List Char) :=
  match skipSpace cs with
  | [] => ended .value
  | '"' :: cs => do
      let (name, cs) ← stringRest cs
      if known.contains name then .ok (name, cs)
      else .error (.mismatch (.unknownVariant name known))
  | cs => mismatchAt "variant identifier" cs

/- Read the value of a choice that carries nothing. -/
def unitValue
    (cs : List Char) : Except Error (List Char) :=
  match skipSpace cs with
  | [] => ended .value
  | 'n' :: cs => word ['u', 'l', 'l'] cs
  | cs => mismatchAt "unit" cs

/- Read a text that names one of some choices. -/
def readVariant
    (known : List String)
    (text : List Char) : Except Error String :=
  match skipSpace text with
  | [] => ended .value
  | '"' :: cs => do
      let (name, cs) ← variantName known ('"' :: cs)
      endText name cs
  | '{' :: cs => do
      let (name, cs) ← variantName known cs
      let cs ← unitValue (← skipColon cs)
      match skipSpace cs with
      | [] => ended .object
      | '}' :: cs => endText name cs
      | _ :: _ => broken .expectedValue
  | _ :: _ => broken .expectedValue

end Json

end Reformat
