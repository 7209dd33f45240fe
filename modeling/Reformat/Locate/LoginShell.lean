import Reformat.Host.Basic
import Reformat.Text.Find
import Reformat.Text.Utf8

/-
  The search path that a login shell sets.

  The shell prints its path between two marks, so that nothing
  else it prints is taken for it.  The answer is asked for once
  and then remembered, also when there was none.

  Key definitions include:
    * `LoginShell.markedPath?`
    * `LoginShell.capture`
    * `LoginShell.pathOr`
    * `LoginShell.path`
-/

------------------------------------------------------------
-- Marked Paths
------------------------------------------------------------

namespace Reformat

namespace LoginShell

/- What stands before and after the path. -/
def mark : String := "__FB_PATH__"

/- The text between the first two marks, unless empty. -/
def markedPath? (output : String) : Option String := do
  let (_, rest) ←
    Text.splitOnce? mark.toList output.toList
  let (path, _) ← Text.splitOnce? mark.toList rest
  if path.isEmpty then none else some (String.ofList path)

end LoginShell

end Reformat

------------------------------------------------------------
-- Asking The Shell
------------------------------------------------------------

namespace Reformat

namespace LoginShell

/- The command that prints the path between marks. -/
def script : String :=
  "printf '" ++ mark ++ "%s" ++ mark ++ "' \"$PATH\""

/- How a shell is asked for its path. -/
def invocation (shell : String) : Invocation where
  program := shell
  arguments := ["-l", "-i", "-c", script]
  environment := []

/- Ask a shell for its path. -/
def ask (shell : String) : OnHost (Option String) := do
  match ← Host.start (invocation shell) .empty with
  | .error e =>
      Host.notify (.shellFailed shell e.message)
      return none
  | .ok course =>
      match course.stdout with
      | .leftOpen | .lost _ =>
          Host.notify (.shellTimedOut shell)
          return none
      | .closed bytes | .failed bytes _ =>
          match markedPath? (Text.Utf8.decodeLossy bytes) with
          | some path => return some path
          | none =>
              Host.notify (.shellWithoutPath shell)
              return none

/- Ask the user's shell for its path, if there is a shell. -/
def capture : OnHost (Option String) := do
  match (← get).setting? "SHELL" with
  | none => return none
  | some shell =>
      if shell.isEmpty then return none else ask shell

/- The remembered path, or that of `capture` from now on. -/
def pathOr
    (capture : OnHost (Option String)) :
    OnHost (Option String) := do
  match (← get).loginPath with
  | some path => return path
  | none =>
      let path ← capture
      modify fun h => { h with loginPath := some path }
      return path

/- The path of the user's login shell. -/
def path : OnHost (Option String) :=
  pathOr capture

end LoginShell

end Reformat
