import Reformat.Cli.Options
import Reformat.Text.Affix
import Reformat.Text.Split

/-
  Reading command lines.

  Arguments are taken one after the other.  A value is looked
  at only when the next flag, setting or file follows, or at
  the end; so of two errors it may be the later one that is
  reported.

  Key definitions include:
    * `Cli.Draft`
    * `Cli.Progress`
    * `Cli.Progress.step`
    * `Options.read`
-/

------------------------------------------------------------
-- Drafts
------------------------------------------------------------

namespace Reformat

namespace Cli

/- What has been given so far. -/
structure Draft where
  file? : Option String := none
  mode? : Option Mode := none
  selection? : Option Span := none
  cursor? : Option Nat := none
  inPlace : Bool := false
  config? : Option String := none
  binary? : Option String := none
  path? : Option String := none
  verbose : Bool := false

namespace Draft

/- A setting has been given. -/
def has (d : Draft) : Setting → Bool
  | .mode => d.mode?.isSome
  | .selection => d.selection?.isSome
  | .cursor => d.cursor?.isSome
  | .config => d.config?.isSome
  | .binary => d.binary?.isSome
  | .path => d.path?.isSome

/- A path, which may not be empty. -/
def readPath
    (name path : String) : Except UsageError String :=
  if path.isEmpty then .error (.emptyPath name)
  else .ok path

/- Give a setting a value. -/
def set
    (d : Draft)
    (value : String) :
    Setting → Except UsageError Draft
  | .mode =>
      match modeOfName? value with
      | some m => .ok { d with mode? := some m }
      | none => .error (.unknownMode value)
  | .selection =>
      match Span.ofText value with
      | .ok r => .ok { d with selection? := some r }
      | .error cause => .error (.badSelection cause)
  | .cursor =>
      match Text.Natural.read value.toList with
      | .ok n => .ok { d with cursor? := some n }
      | .error fault => .error (.badCursor value fault)
  | .config => do
      let path ← readPath "--config" value
      pure { d with config? := some path }
  | .binary => .ok { d with binary? := some value }
  | .path => .ok { d with path? := some value }

/- Give a setting a value, unless it has one. -/
def give
    (d : Draft)
    (s : Setting)
    (value : String) : Except UsageError Draft :=
  if d.has s then .error (.repeated s.name)
  else d.set value s

/- Raise a flag, unless it was raised. -/
def raise
    (d : Draft) : Flag → Except UsageError Draft
  | .help => .error .helpWanted
  | .version => .error .versionWanted
  | .inPlace =>
      if d.inPlace then .error (.repeated Flag.inPlace.name)
      else .ok { d with inPlace := true }
  | .verbose =>
      if d.verbose then .error (.repeated Flag.verbose.name)
      else .ok { d with verbose := true }

/- The options, if nothing is missing or excluded. -/
def finish (d : Draft) : Except UsageError Options :=
  if d.selection?.isSome && d.cursor?.isSome then
    .error .selectionAndCursor
  else
    match d.file? with
    | none => .error .noFile
    | some file =>
        .ok
          { file := file
            mode := d.mode?.getD .auto
            selection? := d.selection?
            cursor? := d.cursor?
            inPlace := d.inPlace
            config? := d.config?
            binary? := d.binary?
            path? := d.path?
            verbose := d.verbose }

end Draft

end Cli

end Reformat

------------------------------------------------------------
-- Arguments
------------------------------------------------------------

namespace Reformat

namespace Cli

/- Something that was named and not yet looked at. -/
inductive Pending
  | nothing
  | setting (s : Setting) (value? : Option String)
  | file (path : String)

/-
  How far reading has come.  After two dashes every argument
  is a file, and only the first file is one too few.
-/
structure Progress where
  draft : Draft := {}
  pending : Pending := .nothing
  hasFile : Bool := false
  filesOnly : Bool := false

namespace Progress

/- Look at what was named last. -/
def settle (p : Progress) : Except UsageError Progress :=
  match p.pending with
  | .nothing => .ok p
  | .setting s none => .error (.noValue s)
  | .setting s (some value) => do
      let d ← p.draft.give s value
      pure { p with draft := d, pending := .nothing }
  | .file path => do
      let path ← Draft.readPath "FILE" path
      pure
        { p with
          draft := { p.draft with file? := some path }
          pending := .nothing }

/- Raise a flag. -/
def raise
    (p : Progress)
    (f : Flag) : Except UsageError Progress := do
  let p ← p.settle
  let d ← p.draft.raise f
  pure { p with draft := d }

/- Give a setting a value that is attached to its name. -/
def attach
    (p : Progress)
    (s : Setting)
    (value : String) : Except UsageError Progress := do
  let p ← p.settle
  let d ← p.draft.give s value
  pure { p with draft := d }

/- Name a setting whose value is the next argument. -/
def await
    (p : Progress)
    (s : Setting) : Except UsageError Progress := do
  let p ← p.settle
  pure { p with pending := .setting s none }

/- Take an argument that is no switch. -/
def takeFile
    (p : Progress)
    (argument : String) : Except UsageError Progress :=
  if p.hasFile then .error (.unknown argument)
  else do
    let p ← p.settle
    pure { p with pending := .file argument, hasFile := true }

/- Take a long name, perhaps with a value attached. -/
def takeLong
    (p : Progress)
    (argument : String)
    (cs : List Char) : Except UsageError Progress :=
  let (name, others) := Text.splitOn '=' cs
  let value? :=
    if others.isEmpty then none
    else some (String.ofList (cs.drop (name.length + 1)))
  match Switch.ofName? (String.ofList name), value? with
  | none, _ => .error (.unknown argument)
  | some (.flag f), none => p.raise f
  | some (.flag f), some value =>
      .error (.unexpectedValue f value)
  | some (.setting s), none => p.await s
  | some (.setting s), some value => p.attach s value

/-
  Take letters.  What follows the letter of a setting is its
  value, less an equals sign in front of it.
-/
def takeLetters
    (argument : String) :
    Progress → List Char → Except UsageError Progress
  | p, [] => .ok p
  | p, c :: cs =>
      match Switch.ofLetter? c with
      | none => .error (.unknown argument)
      | some (.flag f) => do
          takeLetters argument (← p.raise f) cs
      | some (.setting s) =>
          match cs with
          | [] => p.await s
          | '=' :: value => p.attach s (String.ofList value)
          | value => p.attach s (String.ofList value)

/- Take an argument that is the value of what is awaited. -/
def takeValue
    (p : Progress)
    (argument : String) : Except UsageError Progress :=
  match p.pending with
  | .setting s none =>
      .ok { p with pending := .setting s (some argument) }
  | _ => p.takeFile argument

/- Take the next argument. -/
def step
    (p : Progress)
    (argument : String) : Except UsageError Progress :=
  if p.filesOnly then p.takeFile argument
  else
    match argument.toList with
    | ['-', '-'] => .ok { p with filesOnly := true }
    | '-' :: '-' :: cs => p.takeLong argument cs
    | ['-'] => p.takeValue argument
    | '-' :: cs => takeLetters argument p cs
    | _ => p.takeValue argument

end Progress

end Cli

end Reformat

------------------------------------------------------------
-- Command Lines
------------------------------------------------------------

namespace Reformat

namespace Options

/- Read the arguments, the program's own name apart. -/
def read
    (arguments : List String) :
    Except UsageError Options := do
  let p ← arguments.foldlM Cli.Progress.step {}
  (← p.settle).draft.finish

end Options

end Reformat
