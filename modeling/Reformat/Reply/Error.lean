import Reformat.Json.Error
import Reformat.Text.Quoted
import Reformat.Text.Utf8

/-
  Why a formatter's output is no reply.

  Key definitions include:
    * `NumberField`
    * `Flaw`
    * `ReplyError`
    * `ReplyError.message`
-/

------------------------------------------------------------
-- Causes
------------------------------------------------------------

namespace Reformat

/- The numbers that a replacement document holds. -/
inductive NumberField
  | cursor
  | offset
  | length
deriving DecidableEq

/- What is wrong with the shape of a replacement document. -/
inductive Flaw
  | noDocument
  | unexpectedContent (content : String)
  | secondCursor
  | missingAttribute (field : NumberField)
  | described (words : String)
deriving DecidableEq

/- Why a formatter's output is no reply. -/
inductive ReplyError
  | invalidText (fault : Text.Utf8.Fault)
  | malformed (flaw : Flaw)
  | missingCursor
  | invalidNumber (field : NumberField) (value : String)
  | invalidHeader (error : Json.Error)
deriving DecidableEq

end Reformat

------------------------------------------------------------
-- Messages
------------------------------------------------------------

namespace Reformat

/- The name of a number. -/
def NumberField.name : NumberField → String
  | .cursor => "cursor"
  | .offset => "offset"
  | .length => "length"

/- The flaw in words. -/
def Flaw.message : Flaw → String
  | .noDocument => "expected a <replacements> document"
  | .unexpectedContent content =>
      "unexpected content " ++ Text.quoted content
  | .secondCursor => "duplicate <cursor> element"
  | .missingAttribute field =>
      s!"<replacement> without {field.name} attribute"
  | .described words => words

/- The error in words. -/
def ReplyError.message : ReplyError → String
  | .invalidText fault =>
      s!"formatter output is not valid UTF-8: {fault.message}"
  | .malformed flaw =>
      s!"malformed replacements document: {flaw.message}"
  | .missingCursor =>
      "replacements document has no <cursor> element"
  | .invalidNumber field value =>
      s!"invalid {field.name} value " ++ Text.quoted value
  | .invalidHeader error =>
      s!"invalid cursor header line: {error.message}"

/- The messages of the errors that an error comes from. -/
def ReplyError.sources : ReplyError → List String
  | .invalidText fault => [fault.message]
  | .invalidHeader error => [error.message]
  | _ => []

end Reformat
