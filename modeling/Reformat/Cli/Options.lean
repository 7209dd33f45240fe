import Reformat.Cli.Selection
import Reformat.Request.Mode

/-
  Options of the command line.

  A flag stands alone, a setting takes a value.  Both have a
  long name, and some a letter as well.

  Key definitions include:
    * `Options`
    * `Cli.Flag`
    * `Cli.Setting`
    * `UsageError`
-/

------------------------------------------------------------
-- Options
------------------------------------------------------------

namespace Reformat

/- What is asked for on the command line. -/
structure Options where
  file : String
  mode : Mode := .auto
  selection? : Option Span := none
  cursor? : Option Nat := none
  inPlace : Bool := false
  config? : Option String := none
  binary? : Option String := none
  path? : Option String := none
  verbose : Bool := false
deriving DecidableEq

/- The selection, or else a caret, by default at the start. -/
def Options.selected (o : Options) : Span :=
  match o.selection? with
  | some r => r
  | none =>
      let caret := o.cursor?.getD 0
      ⟨caret, caret⟩

end Reformat

------------------------------------------------------------
-- Names
------------------------------------------------------------

namespace Reformat

namespace Cli

/- The name of a mode on the command line. -/
def modeName : Mode → String
  | .wholeFile => "whole"
  | .selection => "selection"
  | .auto => "auto"

/- The mode of a name. -/
def modeOfName? (name : String) : Option Mode :=
  Mode.all.find? fun m => modeName m == name

/- What stands alone. -/
inductive Flag
  | inPlace
  | verbose
  | help
  | version
deriving DecidableEq

/- What takes a value. -/
inductive Setting
  | mode
  | selection
  | cursor
  | config
  | binary
  | path
deriving DecidableEq

/- A flag or a setting. -/
inductive Switch
  | flag (f : Flag)
  | setting (s : Setting)
deriving DecidableEq

/- All flags. -/
def Flag.all : List Flag :=
  [.inPlace, .verbose, .help, .version]

/- All settings. -/
def Setting.all : List Setting :=
  [.mode, .selection, .cursor, .config, .binary, .path]

/- The long name of a flag. -/
def Flag.name : Flag → String
  | .inPlace => "in-place"
  | .verbose => "verbose"
  | .help => "help"
  | .version => "version"

/- The letter of a flag. -/
def Flag.letter : Flag → Char
  | .inPlace => 'i'
  | .verbose => 'v'
  | .help => 'h'
  | .version => 'V'

/- The long name of a setting. -/
def Setting.name : Setting → String
  | .mode => "mode"
  | .selection => "selection"
  | .cursor => "cursor"
  | .config => "config"
  | .binary => "binary"
  | .path => "path"

/- The letter of a setting, if it has one. -/
def Setting.letter? : Setting → Option Char
  | .mode => some 'm'
  | .selection => some 's'
  | .cursor => some 'c'
  | _ => none

namespace Switch

/- All flags and settings. -/
def all : List Switch :=
  Flag.all.map .flag ++ Setting.all.map .setting

/- The long name. -/
def name : Switch → String
  | .flag f => f.name
  | .setting s => s.name

/- The letter, if there is one. -/
def letter? : Switch → Option Char
  | .flag f => some f.letter
  | .setting s => s.letter?

/- The flag or setting of a long name. -/
def ofName? (name : String) : Option Switch :=
  all.find? fun s => s.name == name

/- The flag or setting of a letter. -/
def ofLetter? (c : Char) : Option Switch :=
  all.find? fun s => s.letter? == some c

end Switch

end Cli

end Reformat

------------------------------------------------------------
-- Errors
------------------------------------------------------------

namespace Reformat

/- Why a command line leads to no run. -/
inductive UsageError
  | helpWanted
  | versionWanted
  | unknown (argument : String)
  | noValue (s : Cli.Setting)
  | unexpectedValue (f : Cli.Flag) (value : String)
  | unknownMode (value : String)
  | emptyPath (name : String)
  | badSelection (cause : SelectionError)
  | badCursor (value : String) (fault : Text.Natural.Fault)
  | repeated (name : String)
  | selectionAndCursor
  | noFile
deriving DecidableEq

/- The error in words. -/
def UsageError.message : UsageError → String
  | .helpWanted =>
      "usage: format-bridge [options] FILE"
  | .versionWanted => "format-bridge"
  | .unknown argument =>
      "unexpected argument " ++ Text.quoted argument
  | .noValue s => s!"--{s.name} needs a value"
  | .unexpectedValue f value =>
      s!"--{f.name} takes no value, got " ++
        Text.quoted value
  | .unknownMode value =>
      "no such mode: " ++ Text.quoted value
  | .emptyPath name => s!"{name} is empty"
  | .badSelection cause => cause.message
  | .badCursor value fault =>
      s!"invalid cursor {Text.quoted value}: " ++
        fault.message
  | .repeated name => s!"--{name} is given twice"
  | .selectionAndCursor =>
      "--selection and --cursor exclude each other"
  | .noFile => "no file is given"

end Reformat
