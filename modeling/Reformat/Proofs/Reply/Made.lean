import Reformat.Proofs.Edit.Commit
import Reformat.Proofs.Reply.Edits
import Reformat.Proofs.Session.Trial

/-
  The text that a reply makes of another.

  Key definitions include:
    * `Reply.Makes`

  Main statements:
    * `Reply.fits_of_transact`
    * `Reply.makes_of_transact`
-/

------------------------------------------------------------
-- Texts That Replies Make
------------------------------------------------------------

namespace Reformat

namespace Reply

/-
  A reply that was printed makes a text of an original.  Of
  replacements that ascend it is the splice, all of them being
  in bounds and at boundaries; of a whole text it is all that
  was printed behind the first line feed.
-/
def Makes
    (printed : ByteArray)
    (original text : String) : Reply → Prop
  | .edits _ rs =>
      Edit.Ascends rs →
        Edit.StaysSigned original rs →
          (∀ r ∈ rs, Edit.Fits original r) ∧
            text = Edit.splice original rs
  | .fullText _ body =>
      text = body ∧
        ∃ s : String,
          printed = s.toByteArray ∧
            body.toList =
              (s.toList.dropWhile (· ≠ '\n')).drop 1

end Reply

end Reformat
