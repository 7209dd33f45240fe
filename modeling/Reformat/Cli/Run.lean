import Reformat.Cli.Reader
import Reformat.Config.File
import Reformat.History.Changes

/-
  A run of the command line on a host.

  The configuration is loaded, the file is read and formatted,
  and the result is printed, or written back if there are
  edits to write.  The first failure ends the run.  A command
  line may also ask for help instead of a run.

  Key definitions include:
    * `Options.config`
    * `Options.run`
    * `Cli.run`
-/

------------------------------------------------------------
-- Errors
------------------------------------------------------------

namespace Reformat

/-
  Why a run failed.  One that could not print all of its text
  has printed some of it; one that met a number that is no word
  has broken down.
-/
inductive RunError
  | config (cause : ConfigError)
  | noConfig (path : String)
  | read (file : String) (cause : SystemError)
  | notText (file : String) (cause : Text.Utf8.Fault)
  | overflow
  | format (cause : Failure)
  | write (file : String) (cause : SystemError)
  | print (printed : ByteArray) (cause : SystemError)

/- An error and what it comes from, in words. -/
def ConfigError.chain (e : ConfigError) : String :=
  match e with
  | .unreadable _ cause => e.message ++ ": " ++ cause.message
  | .malformed _ => e.message

/- The error and what it comes from, in words. -/
def RunError.chain : RunError → String
  | .config cause => cause.chain
  | .noConfig path => s!"Config file not found: {path}"
  | .read file cause =>
      s!"Failed to read {file}: {cause.message}"
  | .notText file cause =>
      s!"{file} is not valid UTF-8: {cause.message}"
  | .overflow => "attempt to add with overflow"
  | .format cause => cause.chain
  | .write file cause =>
      s!"Failed to write {file}: {cause.message}"
  | .print _ cause => cause.message

end Reformat

------------------------------------------------------------
-- Preparations
------------------------------------------------------------

namespace Reformat

namespace Options

/- The configuration in the file that is to be used. -/
def fileConfig
    (o : Options)
    (h : Host) : Except RunError Config :=
  match o.config? with
  | none =>
      match Config.load h (Config.standardPath h) with
      | .error cause => .error (.config cause)
      | .ok c => .ok (c.getD {})
  | some path =>
      match Config.load h path with
      | .error cause => .error (.config cause)
      | .ok none => .error (.noConfig path)
      | .ok (some c) => .ok c

/- The configuration, as the options change it. -/
def config
    (o : Options)
    (h : Host) : Except RunError Config := do
  let c ← o.fileConfig h
  let c :=
    { c with
      binary := o.binary?.getD c.binary
      path? := o.path?.or c.path? }
  pure (c.normalized h)

/- The document to format. -/
def document
    (o : Options)
    (h : Host) : Except RunError Document :=
  match h.files.read h.cwd o.file with
  | .error cause => .error (.read o.file cause)
  | .ok bytes =>
      match Text.Utf8.decode bytes with
      | .error cause => .error (.notText o.file cause)
      | .ok text =>
          let d : Document := { text := text }
          .ok (d.select o.selected)

/- The configuration, and then the document. -/
def prepared
    (o : Options)
    (h : Host) : Except RunError (Config × Document) := do
  let c ← o.config h
  let d ← o.document h
  pure (c, d)

end Options

end Reformat

------------------------------------------------------------
-- Runs
------------------------------------------------------------

namespace Reformat

/- What a run prints, and its exit code. -/
structure Report where
  exitCode : Nat := 0
  stdout : ByteArray := .empty
  stderr : String := ""

/- The exit code that a shell gives a program that has broken
  down. -/
def brokenDown : Nat := 134

/- The report of a run that failed. -/
def RunError.report (e : RunError) : Report :=
  match e with
  | .overflow =>
      { exitCode := brokenDown, stderr := e.chain ++ "\n" }
  | .print printed _ =>
      { exitCode := 1
        stdout := printed
        stderr := s!"Error: {e.chain}\n" }
  | e => { exitCode := 1, stderr := s!"Error: {e.chain}\n" }

namespace Options

/- What is told about a patch, or that there is none. -/
def closingWords
    (d : Document) : Option Patch → String
  | some _ => s!"cursor: {d.cursor}\n"
  | none => "nothing to format\n"

/- Write a document back if there are edits in the patch. -/
def writeBack
    (o : Options)
    (d : Document)
    (patch? : Option Patch) :
    OnHost (Except RunError Unit) := do
  match patch? with
  | none => return .ok ()
  | some patch =>
      if patch.IsNoop then return .ok ()
      else
        match ← Host.write o.file d.toBytes with
        | .error cause => return .error (.write o.file cause)
        | .ok () => return .ok ()

/- Print a document, as far as the host takes it. -/
def print
    (d : Document) : OnHost (Except RunError ByteArray) := do
  let h ← get
  match h.printing.error? d.toBytes with
  | none => return .ok d.toBytes
  | some cause =>
      let printed := h.printing.taken? d.toBytes
      return .error (.print (printed.getD .empty) cause)

/- Format a document and print it or write it back. -/
def finish
    (o : Options)
    (d : Document)
    (patch? : Option Patch) :
    OnHost (Except RunError Report) := do
  let words := closingWords d patch?
  if o.inPlace then
    match ← o.writeBack d patch? with
    | .error e => return .error e
    | .ok () => return .ok { stderr := words }
  else
    match ← print d with
    | .error e => return .error e
    | .ok printed =>
        return .ok { stdout := printed, stderr := words }

/-
  What is known of the changes to a document, as far as a
  session is going to ask for them.  It would ask before it
  does anything else, so they can as well be found for it.
-/
def changes
    (o : Options)
    (s : Session)
    (d : Document) : OnHost (Option Changes) :=
  let view := d.view s.selector o.file
  if s.selector.asks o.mode view.reportedSize
      view.selection then
    History.changes o.file d.text
  else
    pure (some .untracked)

/- Do what the options ask for. -/
def attempt
    (o : Options) : OnHost (Except RunError Report) := do
  let h ← get
  match o.prepared h with
  | .error e => return .error e
  | .ok (c, d) =>
      let s := c.session h
      match ← o.changes s d with
      | none => return .error .overflow
      | some changes =>
          let (d, result) ←
            s.formatDocument o.mode d o.file (pure changes)
          match result with
          | .error cause => return .error (.format cause)
          | .ok patch? => o.finish d patch?

/- Do what the options ask for, and report on it. -/
def run (o : Options) : OnHost Report := do
  match ← o.attempt with
  | .error e => return e.report
  | .ok report => return report

end Options

end Reformat

------------------------------------------------------------
-- Command Lines
------------------------------------------------------------

namespace Reformat

/- The report of a command line that leads to no run.  Asking
  for help is no error. -/
def UsageError.report (e : UsageError) : Report :=
  match e with
  | .helpWanted | .versionWanted =>
      { stdout := (e.message ++ "\n").toByteArray }
  | e => { exitCode := 2, stderr := s!"error: {e.message}\n" }

/- Do what a command line asks for, and report on it. -/
def Cli.run (arguments : List String) : OnHost Report :=
  match Options.read arguments with
  | .error e => return e.report
  | .ok o => o.run

end Reformat
