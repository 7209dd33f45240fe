import Reformat.Cli.Run

/-
  The command line program.

  It takes the formatter's reply from its standard input, so it
  stands behind the formatter in a pipe.  What it reads and
  writes of the system is gathered here; the run itself takes
  place on a host that holds copies of it.

  Key definitions include:
    * `Terminal.hostFor`
    * `main`
-/

------------------------------------------------------------
-- Reading The System
------------------------------------------------------------

namespace Reformat

namespace Terminal

/- The content of a file, if it can be read. -/
def content? (path : String) : IO (Option ByteArray) := do
  try
    return some (← IO.FS.readBinFile path)
  catch _ =>
    return none

/- All that is left of a stream, after what was read of it. -/
partial def readAll
    (input : IO.FS.Stream)
    (done : ByteArray) : IO ByteArray := do
  let more ← input.read 65536
  if more.isEmpty then return done
  else readAll input (done ++ more)

/- The place of a path, dots in it followed. -/
def location (cwd path : String) : Files.Location :=
  (Path.parts (Path.join cwd path)).foldl
    (fun here part =>
      if part = "." then here
      else if part = ".." then here.dropLast
      else here ++ [part])
    []

/- Copy a file onto a host, if it can be read. -/
def copyFile
    (cwd path : String)
    (h : Host) : IO Host := do
  match ← content? path with
  | none => return h
  | some bytes =>
      let here := location cwd path
      return { h with
        files := h.files.plant here (.file bytes false) }

/- The names of the variables in a text. -/
def variableNames (text : String) : List String :=
  (Template.pieces text.toList).filterMap fun piece =>
    match piece with
    | .characters _ => none
    | .variable name _ => some name

/- Those of some variables that are set. -/
def settings
    (names : List String) :
    IO (List (String × String)) :=
  names.filterMapM fun name => do
    return (← IO.getEnv name).map (name, ·)

end Terminal

end Reformat

------------------------------------------------------------
-- Hosts
------------------------------------------------------------

namespace Reformat

namespace Terminal

/- The directory that a formatter of a bare name is put in. -/
def directoryOf (h : Host) (c : Config) : String :=
  let path := c.path?.or (h.setting? "PATH")
  ((path.map Path.splitList).getD []).find?
    (!·.isEmpty) |>.getD "/bin"

/- Put a formatter on a host that prints a reply. -/
def install
    (cwd : String)
    (reply : ByteArray)
    (c : Config)
    (h : Host) : Host :=
  let path :=
    if c.binary.toList.contains '/' then c.binary
    else Path.join (directoryOf h c) c.binary
  let here := location cwd path
  let habit : Habit := { stdout := reply }
  { h with
    files := h.files.plant here (.file .empty true)
    programs := [(here, habit.program)] }

/-
  A host with the files and variables that the options name,
  and with a formatter that prints a reply.
-/
def hostFor
    (o : Options)
    (reply : ByteArray) : IO Host := do
  let cwd := (← IO.currentDir).toString
  let files : Files.Tree := {}
  let h : Host :=
    { files := files.plant (Path.parts cwd) .directory
      cwd := Path.parts cwd
      environment := ← settings ["HOME", "PATH"] }
  let configPath := o.config?.getD (Config.standardPath h)
  let h ← copyFile cwd configPath h
  let h ← copyFile cwd o.file h
  let chosen :=
    match Config.readText h configPath with
    | .ok text => text
    | .error _ => ""
  let named :=
    variableNames chosen ++ variableNames (o.path?.getD "")
  let h :=
    { h with
      environment := h.environment ++ (← settings named) }
  match o.config h with
  | .error _ => return h
  | .ok c => return install cwd reply c h

end Terminal

end Reformat

------------------------------------------------------------
-- The Program
------------------------------------------------------------

namespace Reformat

namespace Terminal

/- The host for a command line. -/
def hostOf (arguments : List String) : IO Host :=
  match Options.read arguments with
  | .error _ => return {}
  | .ok o => do
      hostFor o (← readAll (← IO.getStdin) .empty)

/- Carry out what came of writing the file of a run. -/
def store
    (before after : Host)
    (o : Options) : IO Unit := do
  let old := (before.files.read before.cwd o.file).toOption
  match after.files.read after.cwd o.file with
  | .ok bytes =>
      if o.inPlace && some bytes.data ≠ old.map (·.data) then
        IO.FS.writeBinFile o.file bytes
  | .error _ => pure ()

/- Do what a command line asks for, and carry out what came of
  it. -/
def perform (arguments : List String) : IO UInt32 := do
  let before ← hostOf arguments
  let (report, after) := (Cli.run arguments).run before
  for notice in after.notices do
    IO.eprintln notice.line
  match Options.read arguments with
  | .ok o => store before after o
  | .error _ => pure ()
  (← IO.getStdout).write report.stdout
  IO.eprint report.stderr
  return report.exitCode.toUInt32

end Terminal

end Reformat

open Reformat in
/- Run the command line. -/
def main (arguments : List String) : IO UInt32 :=
  Terminal.perform arguments
