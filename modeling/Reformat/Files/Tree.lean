import Reformat.Files.Error
import Reformat.Files.Path

/-
  Trees of files.

  A tree gives a node for some locations; a location is the
  list of names from the root.  A path is resolved name by
  name, through symbolic links, as often as forty times.

  Key definitions include:
    * `Files.Node`
    * `Files.Tree`
    * `Files.Tree.resolve`
    * `Files.Tree.read`
    * `Files.Tree.write`
    * `Files.Tree.createDirectories`
-/

------------------------------------------------------------
-- Nodes
------------------------------------------------------------

namespace Reformat

namespace Files

/- A place in a tree: the names from the root down. -/
abbrev Location := List String

/- What a location holds. -/
inductive Node
  | file (content : ByteArray) (executable : Bool)
  | directory
  | link (target : String)

/- Locations and what they hold; the first entry counts. -/
structure Tree where
  nodes : List (Location × Node) := []

namespace Tree

/- What a location holds.  The root is a directory. -/
def get?
    (t : Tree)
    (here : Location) : Option Node :=
  if here.isEmpty then some .directory
  else t.nodes.lookup here

/- Put a node at a location. -/
def set
    (t : Tree)
    (here : Location)
    (n : Node) : Tree :=
  ⟨(here, n) :: t.nodes.filter fun e => e.1 ≠ here⟩

/- The locations above a location, from the root. -/
def above (here : Location) : List Location :=
  (List.range here.length).map fun n => here.take n

/- Put a node at a location, in directories of its own. -/
def plant
    (t : Tree)
    (here : Location)
    (n : Node) : Tree :=
  let t := (above here).foldl
    (fun t up =>
      if (t.get? up).isSome then t else t.set up .directory)
    t
  t.set here n

/- The node just put is there. -/
theorem get?_set_self
    (t : Tree)
    (here : Location)
    (n : Node)
    (h : here ≠ []) :
    (t.set here n).get? here = some n := by
  cases here with
  | nil => exact absurd rfl h
  | cons a here => simp [get?, set]

/- Every other location holds what it held. -/
theorem get?_set_of_ne
    (t : Tree)
    (here other : Location)
    (n : Node)
    (h : other ≠ here) :
    (t.set here n).get? other = t.get? other := by
  have hBeq : (other == here) = false := by simpa using h
  unfold get? set
  split
  · rfl
  · simp only [List.lookup_cons, hBeq]
    induction t.nodes with
    | nil => rfl
    | cons e es ih =>
        obtain ⟨key, node⟩ := e
        by_cases he : key = here
        · subst he
          simpa [List.lookup_cons, hBeq] using ih
        · cases hKey : other == key with
          | true => simp [he, List.lookup_cons, hKey]
          | false => simpa [he, List.lookup_cons, hKey] using ih

end Tree

end Files

end Reformat

------------------------------------------------------------
-- Resolution
------------------------------------------------------------

namespace Reformat

namespace Files

/- The most links that one path may lead through. -/
def linkLimit : Nat := 40

/- The longest name of a file in bytes. -/
def nameLimit : Nat := 255

/- The longest path in bytes. -/
def pathLimit : Nat := 4095

/- The names of a path; a slash at the end asks for a
  directory. -/
def steps (path : String) : List String :=
  Path.parts path ++
    (if Path.endsInSlash path then ["."] else [])

namespace Tree

/-
  Go from a directory along some names.  A location without a
  node is an answer only at the very end.
-/
def walk
    (t : Tree)
    (follow : Bool)
    (links : Nat)
    (here : Location)
    (names : List String) :
    Except SystemError Location :=
  match names with
  | [] => .ok here
  | name :: rest =>
      if name = "." then walk t follow links here rest
      else if name = ".." then
        walk t follow links here.dropLast rest
      else if nameLimit < name.utf8ByteSize then
        .error .nameTooLong
      else
        let next := here ++ [name]
        match t.get? next with
        | none =>
            if rest.isEmpty then .ok next
            else .error .notFound
        | some .directory => walk t follow links next rest
        | some (.file _ _) =>
            if rest.isEmpty then .ok next
            else .error .notDirectory
        | some (.link target) =>
            if rest.isEmpty && !follow then .ok next
            else
              match links with
              | 0 => .error .tooManyLinks
              | links + 1 =>
                  let start :=
                    if Path.isAbsolute target then []
                    else here
                  walk t follow links start
                    (steps target ++ rest)
termination_by (links, names.length)

/- The location of a path, seen from a directory. -/
def resolve
    (t : Tree)
    (cwd : Location)
    (follow : Bool)
    (path : String) :
    Except SystemError Location :=
  if path.isEmpty then .error .notFound
  else if path.toList.contains '\x00' then
    .error .zeroInName
  else if pathLimit < path.utf8ByteSize then
    .error .nameTooLong
  else
    let start := if Path.isAbsolute path then [] else cwd
    t.walk follow linkLimit start (steps path)

end Tree

end Files

end Reformat

------------------------------------------------------------
-- Queries
------------------------------------------------------------

namespace Reformat

namespace Files.Tree

/- What a path leads to. -/
def find
    (t : Tree)
    (cwd : Location)
    (path : String) :
    Except SystemError Node := do
  match t.get? (← t.resolve cwd true path) with
  | some n => pure n
  | none => .error .notFound

/- A path leads to something. -/
def exists?
    (t : Tree)
    (cwd : Location)
    (path : String) : Bool :=
  (t.find cwd path).isOk

/- A path leads to a directory. -/
def isDirectory
    (t : Tree)
    (cwd : Location)
    (path : String) : Bool :=
  match t.find cwd path with
  | .ok .directory => true
  | _ => false

/- A path leads to a file that can be run. -/
def isExecutable
    (t : Tree)
    (cwd : Location)
    (path : String) : Bool :=
  match t.find cwd path with
  | .ok (.file _ executable) => executable
  | _ => false

/- The content of a file. -/
def read
    (t : Tree)
    (cwd : Location)
    (path : String) :
    Except SystemError ByteArray := do
  match ← t.find cwd path with
  | .file content _ => pure content
  | _ => .error .isDirectory

end Files.Tree

end Reformat

------------------------------------------------------------
-- Changes
------------------------------------------------------------

namespace Reformat

namespace Files.Tree

/- Where the file of a path is, or may be made, and whether it
  can be run. -/
def place
    (t : Tree)
    (cwd : Location)
    (path : String) :
    Except SystemError (Location × Bool) := do
  if Path.endsInSlash path && !t.exists? cwd path then
    .error .isDirectory
  else
    let here ← t.resolve cwd true path
    match t.get? here with
    | none => pure (here, false)
    | some (.file _ executable) => pure (here, executable)
    | some _ => .error .isDirectory

/-
  Write a file, a new one if there is none.  Opening it leaves
  nothing of what it held; then it gets the bytes that are
  taken, all or those at the front.
-/
def write
    (t : Tree)
    (taking : Location → Taking)
    (cwd : Location)
    (path : String)
    (content : ByteArray) :
    Tree × Except SystemError Unit :=
  match t.place cwd path with
  | .error cause => (t, .error cause)
  | .ok (here, executable) =>
      let result := (taking here).result content
      match (taking here).taken? content with
      | none => (t, result)
      | some kept => (t.set here (.file kept executable), result)

/- A path without the slashes at its end. -/
def dropSlashes (path : String) : String :=
  let cs := path.toList.reverse.dropWhile (· = '/')
  if cs.isEmpty && !path.isEmpty then "/"
  else String.ofList cs.reverse

/- Make a directory in one that is there. -/
def createDirectory
    (t : Tree)
    (cwd : Location)
    (path : String) :
    Except SystemError Tree := do
  let here ← t.resolve cwd false (dropSlashes path)
  match t.get? here with
  | none => pure (t.set here .directory)
  | some _ => .error .fileExists

/-
  Make a directory, or accept it if it is there; `missing`
  says what to do if there is nothing to make it in.
-/
def ensureDirectory
    (t : Tree)
    (cwd : Location)
    (path : String)
    (missing : Unit → Except SystemError Tree) :
    Except SystemError Tree :=
  match t.createDirectory cwd path with
  | .ok t => .ok t
  | .error .notFound => missing ()
  | .error e =>
      if t.isDirectory cwd path then .ok t else .error e

/- Make a directory and those that it is to be in. -/
def createWithin
    (t : Tree)
    (cwd : Location) :
    Nat → String → Except SystemError Tree
  | 0, _ => .error .notFound
  | depth + 1, path =>
      if path.isEmpty then .ok t
      else
        t.ensureDirectory cwd path fun _ =>
          match Path.parent? path with
          | none => .error .notFound
          | some parent => do
              let t ← t.createWithin cwd depth parent
              t.ensureDirectory cwd path fun _ =>
                .error .notFound

/- Make a directory and those that it is to be in. -/
def createDirectories
    (t : Tree)
    (cwd : Location)
    (path : String) :
    Except SystemError Tree :=
  t.createWithin cwd (path.length + 1) path

end Files.Tree

end Reformat
