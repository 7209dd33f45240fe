import Reformat.Files.Tree
import Reformat.Host.Program
import Reformat.Notice
import Reformat.Request.Command
import Reformat.Text.Affix
import Reformat.Text.Split

/-
  Hosts: the system that a run takes place on.

  A host has files, an environment and programs; it remembers
  which programs were started and what was told on the way.
  What is written to a file or to the terminal, it may take
  only in part, or not at all.

  Key definitions include:
    * `Host`
    * `OnHost`
    * `Host.setting?`
    * `Host.write`
    * `Host.start`
-/

------------------------------------------------------------
-- Hosts
------------------------------------------------------------

namespace Reformat

/-
  A system with files, an environment and programs.  It takes
  what is written to a file as `taking` says for its location,
  and what is printed as `printing` says.
-/
structure Host where
  files : Files.Tree := {}
  taking : Files.Location → Taking := fun _ => .whole
  printing : Taking := .whole
  cwd : Files.Location := []
  environment : List (String × String) := []
  programs : List (Files.Location × Program) := []
  loginPath : Option (Option String) := none
  calls : Array (Files.Location × Call) := #[]
  notices : Array Notice := #[]

/- Something that is done on a host. -/
abbrev OnHost := StateM Host

namespace Host

/-
  The value of a variable, if it is set.  A setting is one text
  with an equals sign in it, so a name may reach into what was
  given as the value, up to another equals sign.
-/
def setting?
    (h : Host)
    (name : String) : Option String :=
  h.environment.findSome? fun (key, value) =>
    (Text.after? (name ++ "=")
      (key ++ "=" ++ value).toList).map String.ofList

/-
  The user's home directory, as the environment has it; an
  empty name is none.  The system's list of users, which may
  have another where the environment has none, is left out.
-/
def home? (h : Host) : Option String :=
  match h.setting? "HOME" with
  | some home => if home.isEmpty then none else some home
  | none => none

/- Tell something. -/
def notify (n : Notice) : OnHost Unit :=
  modify fun h => { h with notices := h.notices.push n }

/- Write a file, as far as the host takes what is written. -/
def write
    (path : String)
    (content : ByteArray) :
    OnHost (Except SystemError Unit) := do
  let h ← get
  let (files, result) :=
    h.files.write h.taking h.cwd path content
  set { h with files := files }
  return result

end Host

end Reformat

------------------------------------------------------------
-- Finding Programs
------------------------------------------------------------

namespace Reformat

namespace Host

/- Where programs are looked for when nothing else is set. -/
def standardPath : String := "/bin:/usr/bin"

/- The file that is run for a path. -/
def program
    (h : Host)
    (path : String) :
    Except SystemError Files.Location := do
  let here ← h.files.resolve h.cwd true path
  match h.files.get? here with
  | none => .error .notFound
  | some (.file _ true) => pure here
  | some _ => .error .permissionDenied

/- An error after which the search for a program goes on. -/
def isPassing : SystemError → Bool
  | .notFound => true
  | .notDirectory => true
  | .permissionDenied => true
  | _ => false

/-
  The file that is run for a name, from the first directory
  that has it.  `refused` says that a directory has the name
  but not as a program.
-/
def search
    (h : Host)
    (name : String)
    (refused : Bool) :
    List String → Except SystemError Files.Location
  | [] =>
      .error (if refused then .permissionDenied else .notFound)
  | directory :: rest =>
      match h.program (Path.join directory name) with
      | .ok here => .ok here
      | .error e =>
          if isPassing e then
            h.search name
              (refused || e == .permissionDenied) rest
          else
            .error e

/- The file that is run for a name or a path. -/
def locate
    (h : Host)
    (environment : List (String × String))
    (name : String) :
    Except SystemError Files.Location :=
  if name.isEmpty then .error .notFound
  else if name.toList.contains '/' then h.program name
  else
    let path :=
      (environment.lookup "PATH").getD standardPath
    h.search name false (Path.splitList path)

end Host

end Reformat

------------------------------------------------------------
-- Starting Programs
------------------------------------------------------------

namespace Reformat

namespace Host

/- A text that cannot be passed to a program. -/
def hasZero (s : String) : Bool :=
  s.toList.contains '\x00'

/- An environment with changes; the last of a name counts. -/
def environmentWith
    (h : Host)
    (changes : List (String × String)) :
    List (String × String) :=
  changes.reverse ++ h.environment

/-
  A setting as a program reads it: a name ends at its first
  equals sign, and the rest of it begins the value.
-/
def readSetting (setting : String × String) :
    String × String :=
  let (name, value) := setting
  match Text.splitOn '=' name.toList with
  | (_, []) => (name, value)
  | (front, _ :: _) =>
      let rest := name.toList.drop (front.length + 1)
      (String.ofList front,
        String.ofList rest ++ "=" ++ value)

/-
  An environment as a program reads it.  Settings are passed in
  the order of their names as they were given, and the last one
  of a name counts, so the list begins with the last.
-/
def readSettings
    (environment : List (String × String)) :
    List (String × String) :=
  let passed :=
    environment.mergeSort fun a b => decide (b.1 ≤ a.1)
  passed.map readSetting

/- Start a program and let it take its course. -/
def start
    (i : Invocation)
    (input : ByteArray) :
    OnHost (Except SystemError Course) := do
  let h ← get
  let environment := h.environmentWith i.environment
  if hasZero i.program || i.arguments.any hasZero ||
      i.environment.any
        (fun e => hasZero e.1 || hasZero e.2) then
    return .error .zeroInArgument
  match h.locate environment i.program with
  | .error e => return .error e
  | .ok here =>
      match h.programs.lookup here with
      | none => return .error .unknownProgram
      | some program =>
          let call :=
            ⟨i.arguments, readSettings environment, input⟩
          set { h with calls := h.calls.push (here, call) }
          return .ok (program call)

end Host

end Reformat
