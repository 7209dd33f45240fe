import Reformat.History.Hunk
import Reformat.Host.Basic
import Reformat.Text.Blank
import Reformat.Text.Utf8

/-
  What the version control program says about a file.

  The program is called in the directory of the file, first to
  learn whether it keeps the file, then for the difference to
  the last commit.  A difference whose lines cannot be counted
  breaks down whoever reads it; then there is no answer.

  Key definitions include:
    * `History.changes`
-/

------------------------------------------------------------
-- Calls
------------------------------------------------------------

namespace Reformat

namespace History

/- The name of the program. -/
def git : String := "git"

/- The size of a difference that is not worth using. -/
def diffLimit : Nat := 1 <<< 20

/- A call of the program in a directory. -/
def invocation
    (directory : String)
    (arguments : List String) : Invocation where
  program := git
  arguments := ["-C", directory] ++ arguments
  environment := []

/- The arguments that ask whether a file is kept. -/
def isKeptArguments (name : String) : List String :=
  ["ls-files", "--error-unmatch", "--", name]

/- The arguments that ask for the difference of a file. -/
def diffArguments (name : String) : List String :=
  ["diff", "-U0", "--no-color", "--no-ext-diff", "HEAD",
    "--", name]

/- How a call went. -/
structure Answer where
  succeeded : Bool
  stdout : ByteArray
  stderr : ByteArray

/- Call the program and wait for it.  Its streams are taken to
  be read to their ends. -/
def call
    (directory : String)
    (arguments : List String) :
    OnHost (Except SystemError Answer) := do
  match
    ← Host.start (invocation directory arguments) .empty
  with
  | .error e => return .error e
  | .ok course =>
      match course.ending? with
      | some (.unknown cause) => return .error cause
      | ending? =>
          return .ok
            ⟨ending? = some (.code 0),
              course.stdout.arrived,
              course.stderr.arrived⟩

end History

end Reformat

------------------------------------------------------------
-- Changes
------------------------------------------------------------

namespace Reformat

namespace History

/- The directory of a file as the program is told it. -/
def directoryOf (path : String) : String :=
  match Path.parent? path with
  | none => "."
  | some parent => if parent.isEmpty then "." else parent

/- The changes that a difference shows, if its lines can be
  counted. -/
def ofAnswer?
    (path text : String)
    (a : Answer) : Option (Changes × List Notice) :=
  if !a.succeeded then
    let words := Text.trimEnd (Text.Utf8.decodeLossy a.stderr)
    some (.unavailable, [.diffFailed path words])
  else if diffLimit < a.stdout.size then
    some (.unavailable, [.diffTooLarge path])
  else
    let diff := Text.Utf8.decodeLossy a.stdout
    (Hunk.spans? diff text).map fun spans =>
      (.spans spans, [])

/- Tell that the program could not be called. -/
def failed (e : SystemError) : OnHost (Option Changes) := do
  Host.notify (.historyFailed e.message)
  return some .unavailable

/- The changes of a file whose text is as it is stored, if
  they can be counted. -/
def changes
    (path text : String) : OnHost (Option Changes) := do
  match Path.fileName? path with
  | none => return some .unavailable
  | some name =>
      let directory := directoryOf path
      match ← call directory (isKeptArguments name) with
      | .error e => failed e
      | .ok kept =>
          if !kept.succeeded then
            return some .untracked
          else
            match ← call directory (diffArguments name) with
            | .error e => failed e
            | .ok answer =>
                match ofAnswer? path text answer with
                | none => return none
                | some (found, notices) =>
                    modify fun h =>
                      { h with
                        notices :=
                          h.notices ++ notices.toArray }
                    return some found

end History

end Reformat
