import Reformat.Text.Split

/-
  Paths: names of files, with slashes between their parts.

  Several slashes count as one, and a part that is a single dot
  counts only at the front of a relative path.

  Key definitions include:
    * `Path.isAbsolute`
    * `Path.parts`
    * `Path.join`
    * `Path.parent?`
    * `Path.fileName?`
    * `Path.splitList`
-/

------------------------------------------------------------
-- Parts
------------------------------------------------------------

namespace Reformat

namespace Path

/- A path that begins at the root. -/
def isAbsolute (path : String) : Bool :=
  path.toList.head? = some '/'

/- The parts between slashes, empty ones left out. -/
def parts (path : String) : List String :=
  let (first, others) := Text.splitOn '/' path.toList
  ((first :: others).filter (!·.isEmpty)).map String.ofList

/- A path that asks for a directory. -/
def endsInSlash (path : String) : Bool :=
  path.toList.getLast? = some '/'

/- The directories of a list that colons separate. -/
def splitList (list : String) : List String :=
  let (first, others) := Text.splitOn ':' list.toList
  (first :: others).map String.ofList

end Path

end Reformat

------------------------------------------------------------
-- Joining
------------------------------------------------------------

namespace Reformat

namespace Path

/-
  A path taken from a directory.  An absolute path stands for
  itself.
-/
def join
    (directory path : String) : String :=
  if isAbsolute path then path
  else if directory.isEmpty || endsInSlash directory then
    directory ++ path
  else
    directory ++ "/" ++ path

end Path

end Reformat

------------------------------------------------------------
-- Last Parts
------------------------------------------------------------

namespace Reformat

namespace Path

/-
  A path in reverse, less the slashes and dots at its end that
  name no part.
-/
def dropIdle : List Char → List Char
  | '/' :: cs => dropIdle cs
  | '.' :: '/' :: cs => dropIdle ('/' :: cs)
  | cs => cs
termination_by cs => cs.length

/- The last part in reverse, unless the path has none. -/
def lastPart? (path : String) : Option (List Char) :=
  match dropIdle path.toList.reverse with
  | [] => none
  | cs => some (cs.takeWhile (· ≠ '/'))

/- The name of the file in its directory. -/
def fileName? (path : String) : Option String :=
  match lastPart? path with
  | none => none
  | some ['.'] => none
  | some ['.', '.'] => none
  | some part => some (String.ofList part.reverse)

/- The path without its last part. -/
def parent? (path : String) : Option String :=
  match dropIdle path.toList.reverse with
  | [] => none
  | cs =>
      let rest := dropIdle (cs.dropWhile (· ≠ '/'))
      if rest.isEmpty && isAbsolute path then some "/"
      else some (String.ofList rest.reverse)

end Path

end Reformat
