import Reformat.Edit.Replacement

/-
  What a formatter answers: edits of the text it was given, or
  the whole text anew.  Either way it says where the caret is
  to stand in the formatted text.

  Key definitions include:
    * `Protocol`
    * `Reply`
-/

------------------------------------------------------------
-- Protocols
------------------------------------------------------------

namespace Reformat

/- The form in which a formatter is asked to answer. -/
inductive Protocol
  | replacements
  | fullText
deriving DecidableEq, Inhabited

namespace Protocol

/- The protocol's name in settings. -/
def name : Protocol → String
  | .replacements => "replacements-xml"
  | .fullText => "cursor-header-text"

/- All protocols. -/
def all : List Protocol :=
  [.replacements, .fullText]

/- The protocol of a name. -/
def ofName? (name : String) : Option Protocol :=
  all.find? fun p => p.name == name

end Protocol

end Reformat

------------------------------------------------------------
-- Replies
------------------------------------------------------------

namespace Reformat

/- A formatter's answer. -/
inductive Reply
  | edits
      (cursor : Nat)
      (replacements : List Replacement)
  | fullText
      (cursor : Nat)
      (text : String)
deriving DecidableEq

end Reformat

namespace Reformat.Reply

/- The place of the caret in the formatted text. -/
def cursor : Reply → Nat
  | .edits cursor _ => cursor
  | .fullText cursor _ => cursor

/- The formatter had nothing to change. -/
def IsNoop : Reply → Prop
  | .edits _ replacements => replacements = []
  | .fullText _ _ => False

/- Having nothing to change is decidable. -/
instance (r : Reply) : Decidable r.IsNoop := by
  unfold IsNoop
  split <;> infer_instance

end Reformat.Reply
