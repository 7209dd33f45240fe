import Reformat.Reply.Basic
import Reformat.Request.Scope

/-
  Requests, and the command lines that express them.

  Extra arguments come first, then style, form of the answer,
  file name and caret, then a pair of arguments for each span.

  Key definitions include:
    * `Request`
    * `Invocation`
    * `Dialect`
    * `Dialect.arguments`
    * `Dialect.invocation`
-/

------------------------------------------------------------
-- Requests
------------------------------------------------------------

namespace Reformat

/- What a formatter is asked to do, and which one. -/
structure Request where
  path : String
  cursor : Nat
  scope : Scope
  binary : String
  extraArguments : List String := []
  environment : List (String × String) := []
deriving DecidableEq

/- A program, its arguments and its changes of environment. -/
structure Invocation where
  program : String
  arguments : List String
  environment : List (String × String)
deriving DecidableEq

/- The invocation as one would type it. -/
def Invocation.commandLine (i : Invocation) : String :=
  let settings :=
    i.environment.map fun (name, value) =>
      name ++ "=" ++ value
  " ".intercalate (settings ++ i.program :: i.arguments)

end Reformat

------------------------------------------------------------
-- Arguments
------------------------------------------------------------

namespace Reformat

/- How a formatter is spoken to. -/
structure Dialect where
  protocol : Protocol := .replacements
  wholeFileOffsets : Bool := false
deriving DecidableEq

/- The arguments for a span. -/
def Span.arguments (r : Span) : List String :=
  [s!"-offset={r.start}", s!"-length={r.length}"]

namespace Dialect

/- The arguments that ask for a form of answer. -/
def formArguments (d : Dialect) : List String :=
  match d.protocol with
  | .replacements => ["-output-replacements-xml"]
  | .fullText => []

/- The arguments that name the part to format. -/
def scopeArguments
    (d : Dialect) : Scope → List String
  | .wholeFile size =>
      if d.wholeFileOffsets then Span.arguments ⟨0, size⟩
      else []
  | .spans rs => rs.flatMap Span.arguments

/- All arguments of a request. -/
def arguments
    (d : Dialect)
    (r : Request) : List String :=
  r.extraArguments ++ ["-style=file"] ++ d.formArguments ++
    [s!"-assume-filename={r.path}", s!"-cursor={r.cursor}"] ++
    d.scopeArguments r.scope

/- The command line of a request. -/
def invocation
    (d : Dialect)
    (r : Request) : Invocation where
  program := r.binary
  arguments := d.arguments r
  environment := r.environment

end Dialect

end Reformat
