import Reformat.Config.Record

/-
  Loading and saving configurations.

  Key definitions include:
    * `ConfigError`
    * `Config.standardPath`
    * `Config.load`
    * `Config.save`
-/

------------------------------------------------------------
-- Errors
------------------------------------------------------------

namespace Reformat

/- Why a configuration cannot be loaded. -/
inductive ConfigError
  | unreadable (path : String) (cause : SystemError)
  | malformed (path : String)
deriving DecidableEq

/- The error in words. -/
def ConfigError.message : ConfigError → String
  | .unreadable path cause =>
      s!"Failed to read config file at {path}: " ++
        cause.message
  | .malformed path =>
      s!"Failed to parse config file at {path}: "

end Reformat

------------------------------------------------------------
-- Files
------------------------------------------------------------

namespace Reformat

namespace Config

/- The file of a user's choices. -/
def standardPath (h : Host) : String :=
  let directory :=
    Template.inHome h.home? "~/.config/format-bridge".toList
  Path.join (String.ofList directory) "config.toml"

/- The text of a file. -/
def readText
    (h : Host)
    (path : String) : Except SystemError String :=
  match h.files.read h.cwd path with
  | .error cause => .error cause
  | .ok bytes =>
      (Text.Utf8.decode bytes).mapError
        fun _ => .invalidText

/- The choices in a file, in normal form, if it is there. -/
def load
    (h : Host)
    (path : String) :
    Except ConfigError (Option Config) :=
  if h.files.exists? h.cwd path then
    match readText h path with
    | .error cause => .error (.unreadable path cause)
    | .ok text =>
        match ofText? text with
        | none => .error (.malformed path)
        | some c => .ok (some (c.normalized h))
  else
    .ok none

/- Save choices in a file; its directories are made first. -/
def save
    (c : Config)
    (path : String) : OnHost (Except SystemError Unit) := do
  let h ← get
  let files : Except SystemError Files.Tree :=
    match Path.parent? path with
    | none => .ok h.files
    | some parent => h.files.createDirectories h.cwd parent
  match files with
  | .error cause => return .error cause
  | .ok files =>
      set { h with files := files }
      Host.write path c.toText.toByteArray

end Config

end Reformat
