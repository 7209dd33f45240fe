/-
  Values and tables of settings files.

  A table remembers how it came about, for this decides what
  may still be added to it: a header may name a table that only
  longer headers have implied, and dotted keys may add to
  tables that dotted keys made.

  Key definitions include:
    * `Toml.Value`
    * `Toml.Table`
    * `Toml.Table.insert?`
    * `Toml.Table.openTable?`
    * `Toml.Table.openRow?`
-/

------------------------------------------------------------
-- Values
------------------------------------------------------------

namespace Reformat

namespace Toml

/- How a table came about. -/
inductive Origin
  | implied
  | dotted
  | header
  | inline
deriving DecidableEq

/- A value.  Of floats and dates only the kind matters. -/
inductive Value
  | string (s : String)
  | integer (n : Int)
  | float
  | boolean (b : Bool)
  | date
  | array (elements : List Value)
  | table
      (origin : Origin)
      (entries : List (String × Value))
  | rows (rows : List (List (String × Value)))

/- Keys and their values, in the order of the file. -/
abbrev Table := List (String × Value)

end Toml

end Reformat

------------------------------------------------------------
-- Paths Into Tables
------------------------------------------------------------

namespace Reformat

namespace Toml.Table

/- Give a key another value, or add it at the end. -/
def set
    (t : Table)
    (key : String)
    (v : Value) : Table :=
  if (t.lookup key).isSome then
    t.map fun (k, old) => if k = key then (k, v) else (k, old)
  else
    t ++ [(key, v)]

/-
  Change the table at the end of a path.  Tables that are not
  there are made; rows stand for the last one.  The change is
  told how its table came about.
-/
def within?
    (dotted : Bool)
    (change : Origin → Table → Option Table) :
    List String → Origin → Table → Option Table
  | [], origin, t => change origin t
  | key :: path, _, t =>
      match t.lookup key with
      | none => do
          let origin := if dotted then .dotted else .implied
          let inner ← within? dotted change path origin []
          pure (t.set key (.table origin inner))
      | some (.table origin inner) =>
          if origin = .inline ∨
              (dotted ∧ origin = .header) then
            none
          else do
            let inner ←
              within? dotted change path origin inner
            pure (t.set key (.table origin inner))
      | some (.rows rows) =>
          match rows.reverse with
          | [] => none
          | last :: before => do
              let last ←
                within? dotted change path .header last
              pure
                (t.set key (.rows (last :: before).reverse))
      | some _ => none

/- Add an entry; `direct` says that its key has no dots. -/
def assign?
    (direct : Bool)
    (key : String)
    (v : Value)
    (origin : Origin)
    (t : Table) : Option Table :=
  if (origin = .dotted) = direct then none
  else if (t.lookup key).isSome then none
  else some (t ++ [(key, v)])

/- Add a value under a path and a key. -/
def insert?
    (t : Table)
    (path : List String)
    (key : String)
    (v : Value) : Option Table :=
  t.within? true (assign? path.isEmpty key v) path .header

/- Open the table that a header names. -/
def openTable?
    (t : Table)
    (path : List String)
    (key : String) : Option Table :=
  let change (_ : Origin) (t : Table) : Option Table :=
    match t.lookup key with
    | none => some (t.set key (.table .header []))
    | some (.table .implied inner) =>
        some (t.set key (.table .header inner))
    | some _ => none
  t.within? false change path .header

/- Open another row of the rows that a header names. -/
def openRow?
    (t : Table)
    (path : List String)
    (key : String) : Option Table :=
  let change (_ : Origin) (t : Table) : Option Table :=
    match t.lookup key with
    | none => some (t.set key (.rows [[]]))
    | some (.rows rows) =>
        some (t.set key (.rows (rows ++ [[]])))
    | some _ => none
  t.within? false change path .header

/- Add a value in the table that the last header opened. -/
def insertAt?
    (t : Table)
    (header path : List String)
    (key : String)
    (v : Value) : Option Table :=
  let change (_ : Origin) (t : Table) : Option Table :=
    t.insert? path key v
  t.within? false change header .header

end Toml.Table

end Reformat
