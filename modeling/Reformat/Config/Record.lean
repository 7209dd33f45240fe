import Reformat.Config.Basic
import Reformat.Toml.Reader
import Reformat.Toml.Writer

/-
  Configurations as settings files.

  Every key may be left out, and keys that are not known are
  passed over.  A known key must have a value of its kind.

  Key definitions include:
    * `Config.ofTable?`
    * `Config.ofText?`
    * `Config.toText`
-/

------------------------------------------------------------
-- Values
------------------------------------------------------------

namespace Reformat

namespace Config

/- The name of a form of output in settings files. -/
def outputName : Protocol → String
  | .replacements => "xml"
  | .fullText => "text"

/- The form of output of a name. -/
def outputOfName? (name : String) : Option Protocol :=
  Protocol.all.find? fun p => outputName p == name

/- A string. -/
def string? : Toml.Value → Option String
  | .string s => some s
  | _ => none

/- A truth value. -/
def boolean? : Toml.Value → Option Bool
  | .boolean b => some b
  | _ => none

/- A whole number that is a word. -/
def word? : Toml.Value → Option Nat
  | .integer n =>
      if 0 ≤ n ∧ n < (Word.limit : Int) then some n.toNat
      else none
  | _ => none

/- An array of strings. -/
def strings? : Toml.Value → Option (List String)
  | .array vs => vs.mapM string?
  | _ => none

/- A value that holds nothing. -/
def isEmpty : Toml.Value → Bool
  | .array vs => vs.isEmpty
  | .table _ entries => entries.isEmpty
  | _ => false

/-
  A form of output: its name, or a table with nothing but the
  name and an empty value.
-/
def output? : Toml.Value → Option Protocol
  | .string s => outputOfName? s
  | .table _ [(name, v)] =>
      if isEmpty v then outputOfName? name else none
  | _ => none

end Config

end Reformat

------------------------------------------------------------
-- Tables
------------------------------------------------------------

namespace Reformat

namespace Config

/- The value of a key, or a default where it is left out. -/
def field?
    {α : Type}
    (t : Toml.Table)
    (key : String)
    (value? : Toml.Value → Option α)
    (default : α) : Option α :=
  match t.lookup key with
  | none => some default
  | some v => value? v

/- The configuration of a table. -/
def ofTable? (t : Toml.Table) : Option Config := do
  let c : Config := {}
  let path? (v : Toml.Value) := (string? v).map some
  pure
    { binary := ← field? t "binary" string? c.binary
      path? := ← field? t "path" path? c.path?
      onlyChangedRegions :=
        ← field? t "only_changed_regions" boolean?
          c.onlyChangedRegions
      output := ← field? t "output" output? c.output
      wholeFileOffsets :=
        ← field? t "whole_file_offsets" boolean?
          c.wholeFileOffsets
      writeTimeout :=
        ← field? t "write_timeout_ms" word? c.writeTimeout
      exitTimeout :=
        ← field? t "exit_timeout_ms" word? c.exitTimeout
      extraArguments :=
        ← field? t "extra_args" strings? c.extraArguments }

/- The configuration that a text spells. -/
def ofText? (text : String) : Option Config := do
  ofTable? (← Toml.read? text)

end Config

end Reformat

------------------------------------------------------------
-- Writing
------------------------------------------------------------

namespace Reformat

namespace Config

/- The entries of a configuration, in order. -/
def entries (c : Config) : List (String × String) :=
  let path :=
    match c.path? with
    | none => []
    | some path => [("path", Toml.writeString path)]
  [("binary", Toml.writeString c.binary)] ++ path ++
    [("only_changed_regions",
        Toml.writeBoolean c.onlyChangedRegions),
      ("output", Toml.writeString (outputName c.output)),
      ("whole_file_offsets",
        Toml.writeBoolean c.wholeFileOffsets),
      ("write_timeout_ms", Text.Natural.toText c.writeTimeout),
      ("exit_timeout_ms", Text.Natural.toText c.exitTimeout),
      ("extra_args", Toml.writeStrings c.extraArguments)]

/- A configuration as a text. -/
def toText (c : Config) : String :=
  String.join
    (c.entries.map fun (key, value) =>
      Toml.writeEntry key value)

end Config

end Reformat
