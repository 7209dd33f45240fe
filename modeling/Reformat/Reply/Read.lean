import Reformat.Notice
import Reformat.Reply.Header

/-
  Reading a formatter's output under the protocol that it was
  asked to use.  The form is never guessed from the output.

  Key definitions include:
    * `Reply.read`
-/

------------------------------------------------------------
-- Outputs
------------------------------------------------------------

namespace Reformat

namespace Reply

/- Read an output as a reply. -/
def read
    (protocol : Protocol)
    (output : ByteArray) : Reading :=
  match Text.Utf8.decode output with
  | .error fault => ⟨.error (.invalidText fault), false⟩
  | .ok text =>
      match protocol with
      | .replacements => readEdits text.toList
      | .fullText => readFullText text.toList

end Reply

/- The notices that reading an output leads to. -/
def Reading.notices (r : Reading) : List Notice :=
  if r.incomplete then [.incompleteFormat] else []

end Reformat
