import Reformat.Edit.Buffer
import Reformat.Text.Utf8

/-
  Documents: a text with a selection and a version.

  A document changes only through `Document.transact`.  Edits
  are made on a draft; when they all succeed the draft becomes
  the document, and when one fails the document is what it was.
  Spans that were changed before, and the selection, move with
  the text as later edits are made.

  Key definitions include:
    * `Document`
    * `Draft`
    * `Patch`
    * `Document.transact`
-/

------------------------------------------------------------
-- Positions Under An Edit
------------------------------------------------------------

namespace Reformat

namespace Edit

/-
  Where a position goes when a span is replaced by `inserted`
  bytes.  Positions from the end of the span on keep their
  distance to the end of the text; those inside the span go to
  the end of what is inserted.
-/
def shift
    (r : Span)
    (inserted : Nat)
    (p : Nat) : Nat :=
  if r.stop ≤ p then p + inserted - (r.stop - r.start)
  else if r.start < p then r.start + inserted
  else p

/- Where both ends of a span go. -/
def shiftSpan
    (r : Span)
    (inserted : Nat)
    (s : Span) : Span :=
  ⟨shift r inserted s.start, shift r inserted s.stop⟩

end Edit

end Reformat

------------------------------------------------------------
-- Documents
------------------------------------------------------------

namespace Reformat

/-
  A text, the selection in it, and a count of its changes.  The
  count has no bound; as a word it would be full, and break the
  program down, only after 2^64 changes.
-/
structure Document where
  text : String
  selection : Span := ⟨0, 0⟩
  version : Nat := 0
deriving DecidableEq

/- A document being edited. -/
structure Draft where
  text : String
  selection : Span
  changed : Array Span := #[]

/- What a finished transaction did to a document. -/
structure Patch where
  changed : List Span
  selection : Span
  version : Nat
deriving DecidableEq

end Reformat

namespace Reformat.Patch

/- A patch that leaves the text alone. -/
def IsNoop (p : Patch) : Prop :=
  p.changed = []

/- Leaving the text alone is decidable. -/
instance (p : Patch) : Decidable p.IsNoop := by
  unfold IsNoop
  infer_instance

end Reformat.Patch

namespace Reformat.Document

/- The document whose text some bytes spell. -/
def ofBytes
    (bytes : ByteArray) :
    Except Text.Utf8.Fault Document := do
  pure { text := ← Text.Utf8.decode bytes }

/- The bytes of the text. -/
def toBytes (d : Document) : ByteArray :=
  d.text.toByteArray

/- The size of the text in bytes. -/
def size (d : Document) : Nat :=
  Text.size d.text

/- The caret stands at the end of the selection. -/
def cursor (d : Document) : Nat :=
  d.selection.stop

/- Select a span, as far as it lies within the text. -/
def select
    (d : Document)
    (r : Span) : Document :=
  { d with selection := r.clamp d.size }

/- The text of a span, as far as it lies within the text. -/
def slice
    (d : Document)
    (r : Span) : String :=
  let r := r.clamp d.size
  Text.slice d.text r.start r.stop

end Reformat.Document

------------------------------------------------------------
-- Drafts
------------------------------------------------------------

namespace Reformat.Draft

/- A draft of a document, nothing changed yet. -/
def ofDocument (d : Document) : Draft :=
  { text := d.text, selection := d.selection }

/- The size of the text in bytes. -/
def size (t : Draft) : Nat :=
  Text.size t.text

/- Replace a span and write down what was inserted. -/
def replace
    (t : Draft)
    (r : Span)
    (value : String) : Draft :=
  let inserted := Text.size value
  { text := Text.replace t.text r.start r.stop value
    selection := Edit.shiftSpan r inserted t.selection
    changed :=
      (t.changed.map (Edit.shiftSpan r inserted)).push
        ⟨r.start, r.start + inserted⟩ }

/- Put the caret somewhere and select nothing. -/
def moveCaret
    (t : Draft)
    (offset : Nat) : Draft :=
  { t with selection := Span.caret (min offset t.size) }

/- Edits on a document are made on its draft. -/
instance : TextBuffer Draft where
  size := size
  isBoundary t p := decide (Text.IsBoundary t.text p)
  replace := replace
  moveCaret := moveCaret

end Reformat.Draft

------------------------------------------------------------
-- Transactions
------------------------------------------------------------

namespace Reformat.Document

/-
  Take over a draft.  The version counts the transactions that
  changed any span.
-/
def commit
    (d : Document)
    (t : Draft) : Document :=
  { text := if t.changed.isEmpty then d.text else t.text
    selection := t.selection
    version :=
      if t.changed.isEmpty then d.version
      else d.version + 1 }

/-
  Edit a draft and take it over if the edit succeeds.
-/
def transact
    {ε : Type}
    (d : Document)
    (edit : Draft → Draft × Except ε Unit) :
    Document × Except ε Patch :=
  match edit (Draft.ofDocument d) with
  | (_, .error e) => (d, .error e)
  | (t, .ok ()) =>
      let d := d.commit t
      (d, .ok
        { changed := t.changed.toList
          selection := d.selection
          version := d.version })

end Reformat.Document
