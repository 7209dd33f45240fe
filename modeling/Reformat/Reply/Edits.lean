import Reformat.Markup.Attribute
import Reformat.Markup.Element
import Reformat.Reply.Basic
import Reformat.Reply.Error

/-
  Replies in the form of a replacement document.

  Nothing but blanks may stand between the elements or between
  the attributes, so a document that is cut off or damaged is
  never read in part.

  Key definitions include:
    * `Reply.readAttributes`
    * `Reply.readElement`
    * `Reply.readEdits`
-/

------------------------------------------------------------
-- Attributes And Numbers
------------------------------------------------------------

namespace Reformat

namespace Reply

/- Refuse anything but blanks. -/
def expectBlank
    (gap : List Char) : Except ReplyError Unit :=
  if gap.all Text.isBlank then .ok ()
  else
    .error
      (.malformed
        (.unexpectedContent
          (String.ofList (Text.trimChars gap))))

/- Pieces with nothing but blanks around them. -/
def expectPieces
    {α : Type}
    (pieces : Markup.Pieces α) :
    Except ReplyError (List α) := do
  pieces.found.forM fun (gap, _) => expectBlank gap
  expectBlank pieces.rest
  pure (pieces.found.map Prod.snd)

/- Read the attributes of a tag. -/
def readAttributes
    (cs : List Char) :
    Except ReplyError (List Markup.Attribute) :=
  expectPieces (Markup.attributes cs)

/- Read a number, blanks around it apart. -/
def readNumber
    (field : NumberField)
    (value : String) : Except ReplyError Nat :=
  match Text.Natural.read? (Text.trim value) with
  | some n => .ok n
  | none => .error (.invalidNumber field value)

/- Read the number that the first attribute of a name has. -/
def numberAttribute
    (attributes : List Markup.Attribute)
    (field : NumberField) : Except ReplyError Nat :=
  match attributes.find? (·.name == field.name) with
  | some a => readNumber field a.value
  | none => .error (.malformed (.missingAttribute field))

end Reply

end Reformat

------------------------------------------------------------
-- Elements
------------------------------------------------------------

namespace Reformat

namespace Reply

/- What the elements read so far say. -/
structure Gathered where
  cursor? : Option Nat := none
  replacements : Array Replacement := #[]

/- Read an element after some others. -/
def readElement
    (sofar : Gathered)
    (e : Markup.Element) : Except ReplyError Gathered :=
  match e with
  | .cursor content =>
      match sofar.cursor? with
      | some _ => .error (.malformed .secondCursor)
      | none => do
          let cursor ←
            readNumber .cursor (String.ofList content)
          pure { sofar with cursor? := some cursor }
  | .replacement written content => do
      let attributes ← readAttributes written
      let offset ← numberAttribute attributes .offset
      let length ← numberAttribute attributes .length
      let value := Markup.decodeText content
      pure
        { sofar with
          replacements :=
            sofar.replacements.push ⟨offset, length, value⟩ }

/- Read elements and what stands between them, in order. -/
def readElements
    (sofar : Gathered) :
    List (List Char × Markup.Element) →
      Except ReplyError Gathered
  | [] => .ok sofar
  | (gap, e) :: rest => do
      expectBlank gap
      readElements (← readElement sofar e) rest

/- Read the body of a replacement document. -/
def readBody
    (body : List Char) : Except ReplyError Reply := do
  let pieces := Markup.elements body
  let all ← readElements {} pieces.found
  expectBlank pieces.rest
  match all.cursor? with
  | none => .error .missingCursor
  | some cursor =>
      pure (.edits cursor all.replacements.toList)

end Reply

end Reformat

------------------------------------------------------------
-- Documents
------------------------------------------------------------

namespace Reformat

/- What came of reading an output. -/
structure Reading where
  result : Except ReplyError Reply
  incomplete : Bool

namespace Reply

/- The attribute that marks an incomplete format. -/
def isIncompleteMark (a : Markup.Attribute) : Bool :=
  a.name == "incomplete_format" && a.value == "true"

/- Read a replacement document. -/
def readEdits (text : List Char) : Reading :=
  match Markup.root? text with
  | none => ⟨.error (.malformed .noDocument), false⟩
  | some root =>
      match readAttributes root.attributes with
      | .error e => ⟨.error e, false⟩
      | .ok attributes =>
          ⟨readBody root.body,
            attributes.any isIncompleteMark⟩

end Reply

end Reformat
