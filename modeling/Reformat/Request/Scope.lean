import Reformat.Request.Mode
import Reformat.Span

/-
  Choosing the part of a document to format.

  Only automatic mode looks at the changes since the last
  commit, and only when nothing is selected and the setting
  asks for it.  Changed spans are put in order and those that
  touch are merged.

  Key definitions include:
    * `Scope`
    * `Changes`
    * `Span.mergeAll`
    * `Selector`
    * `Selector.choose`
    * `Selector.select`
-/

------------------------------------------------------------
-- Scopes
------------------------------------------------------------

namespace Reformat

/- The part of a document that is to be formatted. -/
inductive Scope
  | wholeFile (size : Nat)
  | spans (rs : List Span)
deriving DecidableEq

/- There is nothing to format. -/
def Scope.IsEmpty : Scope → Prop
  | .wholeFile _ => False
  | .spans rs => rs = []

/- Having nothing to format is decidable. -/
instance (s : Scope) : Decidable s.IsEmpty := by
  unfold Scope.IsEmpty
  split <;> infer_instance

/- What version control says about a file. -/
inductive Changes
  | untracked
  | unavailable
  | spans (rs : List Span)
deriving DecidableEq

end Reformat

------------------------------------------------------------
-- Merging Spans
------------------------------------------------------------

namespace Reformat.Span

/- Order by the first byte, then by the end. -/
def le (a b : Span) : Bool :=
  a.start < b.start ||
    a.start == b.start && a.stop ≤ b.stop

/- Add a span to merged ones, the last of them first. -/
def addLast
    (merged : List Span)
    (r : Span) : List Span :=
  match merged with
  | [] => [r]
  | last :: before =>
      if r.start ≤ last.stop then
        ⟨last.start, max last.stop r.stop⟩ :: before
      else
        r :: last :: before

/- Spans of a text in order, those that touch merged. -/
def mergeAll
    (size : Nat)
    (spans : List Span) : List Span :=
  let sorted := spans.mergeSort le
  ((sorted.map (·.clamp size)).foldl addLast []).reverse

end Reformat.Span

------------------------------------------------------------
-- Selectors
------------------------------------------------------------

namespace Reformat

/-
  How the part is chosen.  An editor may count more bytes than
  there are; `adjustment` says how many.
-/
structure Selector where
  onlyChanged : Bool := false
  adjustment : Nat := 1
deriving DecidableEq

/- A scope, or how to find it from the changes. -/
inductive Choice
  | scope (s : Scope)
  | ask (answer : Changes → Scope)

namespace Selector

/- The size of the text from the size that is reported. -/
def size
    (s : Selector)
    (reported : Nat) : Nat :=
  reported - s.adjustment

/- The scope for what version control says. -/
def ofChanges
    (size : Nat) : Changes → Scope
  | .spans rs => .spans (Span.mergeAll size rs)
  | .untracked => .wholeFile size
  | .unavailable => .wholeFile size

/- Choose a scope, without asking for changes yet. -/
def choose
    (s : Selector)
    (mode : Mode)
    (reported : Nat)
    (selection : Span) : Choice :=
  let size := s.size reported
  let selection := selection.clamp size
  match mode with
  | .wholeFile => .scope (.wholeFile size)
  | .selection => .scope (.spans [selection])
  | .auto =>
      if ¬ selection.IsEmpty then
        .scope (.spans [selection])
      else if s.onlyChanged then
        .ask (ofChanges size)
      else
        .scope (.wholeFile size)

/- The changes since the last commit matter. -/
def asks
    (s : Selector)
    (mode : Mode)
    (reported : Nat)
    (selection : Span) : Bool :=
  match s.choose mode reported selection with
  | .scope _ => false
  | .ask _ => true

/- The scope, given the changes. -/
def select
    (s : Selector)
    (mode : Mode)
    (reported : Nat)
    (selection : Span)
    (changes : Changes) : Scope :=
  match s.choose mode reported selection with
  | .scope scope => scope
  | .ask answer => answer changes

end Selector

end Reformat
