import Reformat.Edit.Apply
import Reformat.Edit.Document
import Reformat.Host.Outcome
import Reformat.Locate.Search
import Reformat.Reply.Read

/-
  Formatting sessions: from what an editor shows to the edits
  of its document.

  A session prepares a request, runs the formatter on the text
  and reads its reply, and makes the edits in one transaction.
  Any failure on the way leaves the document as it was.

  Key definitions include:
    * `View`
    * `Session`
    * `Session.prepare`
    * `Session.run`
    * `Session.formatDocument`
-/

------------------------------------------------------------
-- Sessions
------------------------------------------------------------

namespace Reformat

/- What formatting starts from. -/
structure View where
  path : String
  text : String
  reportedSize : Nat
  caret : Nat
  selection : Span

/- How to find a formatter, what to ask it, and how long to
  wait for it. -/
structure Session where
  locator : Locator := {}
  dialect : Dialect := {}
  selector : Selector := {}
  timeouts : Timeouts := {}
  extraArguments : List String := []

/-
  The view of a document that is stored at a path.  Its size
  and the adjustment are added without a bound: a sum that is
  no word, at which the program would break down, takes a text
  or an adjustment near the limit.
-/
def Document.view
    (d : Document)
    (selector : Selector)
    (path : String) : View where
  path := path
  text := d.text
  reportedSize := d.size + selector.adjustment
  caret := d.cursor
  selection := d.selection

end Reformat

------------------------------------------------------------
-- Requests
------------------------------------------------------------

namespace Reformat

namespace Session

/- The scope, asking for changes only if they matter. -/
def scope
    (s : Session)
    (mode : Mode)
    (v : View)
    (changes : OnHost Changes) : OnHost Scope := do
  match
    s.selector.choose mode v.reportedSize v.selection
  with
  | .scope scope => return scope
  | .ask answer => return answer (← changes)

/- The caret, as far as it lies within the text. -/
def cursor
    (s : Session)
    (v : View) : Nat :=
  min v.caret (s.selector.size v.reportedSize)

/- The request for a view, unless there is nothing to do. -/
def prepare
    (s : Session)
    (mode : Mode)
    (v : View)
    (changes : OnHost Changes) :
    OnHost (Option Request) := do
  let scope ← s.scope mode v changes
  if scope.IsEmpty then
    Host.notify (.nothingChanged v.path)
    return none
  else
    let located ← s.locator.locate
    return some
      { path := v.path
        cursor := s.cursor v
        scope := scope
        binary := located.command
        extraArguments := s.extraArguments
        environment := located.environment }

end Session

end Reformat

------------------------------------------------------------
-- Replies
------------------------------------------------------------

namespace Reformat

namespace Session

/- The output of a course that was read to its end. -/
def printed? (c : Course) : Option ByteArray :=
  match c.delivery, c.ending?, c.stdout with
  | .stuck, _, _ => none
  | _, none, _ => none
  | _, some _, .closed bytes => some bytes
  | _, some _, _ => none

/-
  The notices of reading an output.  It is read as soon as it
  is complete, also when the run then turns out to have failed.
-/
def readingNotices
    (protocol : Protocol)
    (c : Course) : List Notice :=
  match printed? c with
  | none => []
  | some bytes => (Reply.read protocol bytes).notices

/- The reply of a course, or what went wrong first. -/
def replyOf
    (protocol : Protocol)
    (limits : Timeouts)
    (command : String)
    (c : Course) : Except Failure Reply := do
  let outcome ← c.judge limits command
  (Reply.read protocol outcome.stdout).result.mapError
    Failure.reply

/- Run the formatter on a text and read its reply. -/
def run
    (s : Session)
    (r : Request)
    (text : String) :
    OnHost (Except Failure Reply) := do
  let i := s.dialect.invocation r
  match ← Host.launch i text with
  | .error e => return .error e
  | .ok course =>
      let protocol := s.dialect.protocol
      Host.notifyAll (readingNotices protocol course)
      let reply :=
        replyOf protocol s.timeouts i.commandLine course
      match reply with
      | .ok reply => return .ok reply
      | .error e =>
          Host.notifyAll (Host.failureNotices e)
          return .error e

end Session

end Reformat

------------------------------------------------------------
-- Documents
------------------------------------------------------------

namespace Reformat

namespace Session

/- Make a reply's edits in one transaction. -/
def commit
    (d : Document)
    (reply : Reply) :
    Document × Except Failure Patch :=
  let (d, result) := d.transact (Edit.applyReply · reply)
  (d, result.mapError Failure.edit)

/-
  Format a document that is stored at a path.  There is no
  patch when there is nothing to format.
-/
def formatDocument
    (s : Session)
    (mode : Mode)
    (d : Document)
    (path : String)
    (changes : OnHost Changes) :
    OnHost (Document × Except Failure (Option Patch)) := do
  let view := d.view s.selector path
  match ← s.prepare mode view changes with
  | none => return (d, .ok none)
  | some r =>
      match ← s.run r d.text with
      | .error e => return (d, .error e)
      | .ok reply =>
          match commit d reply with
          | (d, .error e) => return (d, .error e)
          | (d, .ok patch) =>
              Host.notify
                (.formatted path patch.changed.length
                  patch.selection.stop)
              return (d, .ok (some patch))

end Session

end Reformat
