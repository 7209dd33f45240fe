import Reformat.Locate.LoginShell
import Reformat.Text.Blank

/-
  Finding the formatter.

  A name without a slash is looked for in the directories of
  the search path that is set for it, of the process, and of
  the login shell, and in a few usual places.  If it is nowhere
  the bare name is used.

  Key definitions include:
    * `Locator`
    * `Located`
    * `Locator.find?`
    * `Locator.locate`
-/

------------------------------------------------------------
-- Locators
------------------------------------------------------------

namespace Reformat

/- The formatter that is used when none is named. -/
def defaultBinary : String := "clang-format"

/- What is looked for, and where. -/
structure Locator where
  binary : String := defaultBinary
  path? : Option String := none
  fallbacks : List String := []
  asksLoginShell : Bool := false
deriving DecidableEq

/- The program to start, and changes of its environment. -/
structure Located where
  command : String
  environment : List (String × String)
deriving DecidableEq

/- A blank text stands for nothing. -/
def unlessBlank (s : String) : Option String :=
  if Text.allBlank s then none else some s

/- A blank text is left out. -/
theorem unlessBlank_of_blank
    {s : String}
    (hBlank : Text.allBlank s = true) :
    unlessBlank s = none := by
  unfold unlessBlank
  rw [if_pos hBlank]

/- Any other text is kept. -/
theorem unlessBlank_of_not_blank
    {s : String}
    (hText : Text.allBlank s = false) :
    unlessBlank s = some s := by
  unfold unlessBlank
  rw [hText, if_neg Bool.false_ne_true]

/- The program is named by a path from the root. -/
def Located.isAbsolute (l : Located) : Bool :=
  Path.isAbsolute l.command

namespace Locator

/- The usual places of a user's programs. -/
def usualPlaces (home? : Option String) : List String :=
  let homes :=
    match home? with
    | none => []
    | some home =>
        [Path.join home "bin",
          Path.join (Path.join home ".homebrew") "bin"]
  ["/usr/local/bin"] ++ homes ++
    ["/opt/homebrew/bin", "/home/linuxbrew/.linuxbrew/bin"]

/- A locator for a name; a blank one means the default. -/
def ofBinary
    (binary : String)
    (fallbacks : List String) : Locator where
  binary := (unlessBlank binary).getD defaultBinary
  fallbacks := fallbacks

/- Look first in the directories of a list, unless blank. -/
def withPath
    (l : Locator)
    (path? : Option String) : Locator :=
  { l with path? := path?.bind unlessBlank }

end Locator

end Reformat

------------------------------------------------------------
-- Search
------------------------------------------------------------

namespace Reformat

namespace Locator

/- The directories to look in, in order. -/
def directories
    (l : Locator)
    (processPath? loginPath? : Option String) :
    List String :=
  let listed (path? : Option String) :=
    (path?.map Path.splitList).getD []
  (listed l.path? ++ listed processPath? ++
    listed loginPath? ++ l.fallbacks).filter (!·.isEmpty)

/- The files that a name may stand for in a directory. -/
def candidates
    (directory name : String) : List String :=
  [Path.join directory name,
    Path.join directory (name ++ ".exe")]

/- The first program of a name in some directories. -/
def findIn?
    (runs : String → Bool)
    (name : String)
    (directories : List String) : Option String :=
  (directories.flatMap (candidates · name)).find? runs

/- The program for a name; a path is taken as it is. -/
def find?
    (l : Locator)
    (runs : String → Bool)
    (processPath? loginPath? : Option String) :
    Option String :=
  if l.binary.toList.contains '/' then
    if runs l.binary then some l.binary else none
  else
    findIn? runs l.binary
      (l.directories processPath? loginPath?)

/- The login shell's path, where it is asked for it. -/
def loginPath
    (l : Locator) : OnHost (Option String) :=
  if l.asksLoginShell && l.path?.isNone then
    LoginShell.path
  else
    pure none

/- Find the program, and the environment to start it in. -/
def locate (l : Locator) : OnHost Located := do
  let loginPath? ← l.loginPath
  let h ← get
  let environment :=
    match l.path?, loginPath? with
    | some path, _ => [("PATH", path)]
    | none, some path => [("PATH", path)]
    | none, none => []
  let found? :=
    l.find? (h.files.isExecutable h.cwd)
      (h.setting? "PATH") loginPath?
  return ⟨found?.getD l.binary, environment⟩

end Locator

end Reformat
