import Reformat.Text.Quoted

/-
  Why a JSON text cannot be read.

  A text may break the grammar, end before it is complete, or
  be good JSON for something else than what was asked for.

  Key definitions include:
    * `Json.Found`
    * `Json.Error`
    * `Json.Error.message`
    * `Json.Error.category`
-/

------------------------------------------------------------
-- Values Found
------------------------------------------------------------

namespace Reformat

namespace Json

/- What stands where something else was asked for. -/
inductive Found
  | null
  | boolean (b : Bool)
  | integer (n : Int)
  | float (text : String)
  | string (s : String)
  | sequence
  | map
deriving DecidableEq

/- The value in words. -/
def Found.describe : Found → String
  | .null => "null"
  | .boolean true => "boolean " ++ "`true`"
  | .boolean false => "boolean " ++ "`false`"
  | .integer n => "integer `" ++ toString n ++ "`"
  | .float text => "floating point `" ++ text ++ "`"
  | .string s => "string " ++ Text.quoted s
  | .sequence => "sequence"
  | .map => "map"

end Json

end Reformat

------------------------------------------------------------
-- Errors
------------------------------------------------------------

namespace Reformat

namespace Json

/- A broken rule of the grammar. -/
inductive GrammarFault
  | expectedValue
  | expectedIdent
  | expectedColon
  | expectedCommaOrBracket
  | expectedCommaOrBrace
  | trailingComma
  | trailingCharacters
  | keyNotString
  | invalidNumber
  | numberOutOfRange
  | invalidEscape
  | loneSurrogate
  | unexpectedHexEnd
  | controlCharacter
deriving DecidableEq

/- What was not complete when the text ended. -/
inductive Open
  | value
  | object
  | list
  | string
deriving DecidableEq

/- A value of another kind than the one asked for. -/
inductive Mismatch
  | invalidType (found : Found) (expected : String)
  | invalidValue (found : Found) (expected : String)
  | invalidLength (length : Nat) (expected : String)
  | missingField (name : String)
  | duplicateField (name : String)
  | unknownVariant (name : String) (known : List String)
deriving DecidableEq

/- Why a JSON text cannot be read. -/
inductive Error
  | grammar (fault : GrammarFault)
  | ended (inside : Open)
  | mismatch (m : Mismatch)
deriving DecidableEq

/- The three kinds of error. -/
inductive Category
  | grammar
  | data
  | ended
deriving DecidableEq

/- The kind of an error. -/
def Error.category : Error → Category
  | .grammar _ => .grammar
  | .ended _ => .ended
  | .mismatch _ => .data

end Json

end Reformat

------------------------------------------------------------
-- Messages
------------------------------------------------------------

namespace Reformat

namespace Json

/- The broken rule in words. -/
def GrammarFault.message : GrammarFault → String
  | .expectedValue => "expected value"
  | .expectedIdent => "expected ident"
  | .expectedColon => "expected " ++ "`:`"
  | .expectedCommaOrBracket => "expected `,` or `]`"
  | .expectedCommaOrBrace => "expected `,` or `\x7d`"
  | .trailingComma => "trailing comma"
  | .trailingCharacters => "trailing characters"
  | .keyNotString => "key must be a string"
  | .invalidNumber => "invalid number"
  | .numberOutOfRange => "number out of range"
  | .invalidEscape => "invalid escape"
  | .loneSurrogate =>
      "lone leading surrogate in hex escape"
  | .unexpectedHexEnd => "unexpected end of hex escape"
  | .controlCharacter =>
      "control character (\\u0000-\\u001F) found while " ++
        "parsing a string"

/- What was not complete, in words. -/
def Open.name : Open → String
  | .value => "a value"
  | .object => "an object"
  | .list => "a list"
  | .string => "a string"

/- A name between backticks. -/
def ticked (name : String) : String :=
  "`" ++ name ++ "`"

/- The choice between some names, in words. -/
def choice : List String → String
  | [] => "there are no variants"
  | [a] => "expected " ++ ticked a
  | [a, b] => "expected " ++ ticked a ++ " or " ++ ticked b
  | names =>
      "expected one of " ++
        ", ".intercalate (names.map ticked)

/- The mismatch in words. -/
def Mismatch.message : Mismatch → String
  | .invalidType found expected =>
      "invalid type: " ++ found.describe ++ ", expected " ++
        expected
  | .invalidValue found expected =>
      "invalid value: " ++ found.describe ++ ", expected " ++
        expected
  | .invalidLength length expected =>
      s!"invalid length {length}, expected " ++ expected
  | .missingField name => "missing field " ++ ticked name
  | .duplicateField name =>
      "duplicate field " ++ ticked name
  | .unknownVariant name known =>
      "unknown variant " ++ ticked name ++ ", " ++
        choice known

/- The error in words. -/
def Error.message : Error → String
  | .grammar fault => fault.message
  | .ended inside => "EOF while parsing " ++ inside.name
  | .mismatch m => m.message

end Json

end Reformat
