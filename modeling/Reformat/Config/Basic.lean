import Reformat.Config.Template
import Reformat.Host.Outcome
import Reformat.Locate.Search
import Reformat.Session

/-
  What a user sets once for all runs.

  Key definitions include:
    * `Config`
    * `Config.normalized`
    * `Config.session`
-/

------------------------------------------------------------
-- Configurations
------------------------------------------------------------

namespace Reformat

/- How long a formatter may take, in milliseconds. -/
def defaultTimeout : Nat := 5000

/- A user's choices; timeouts are in milliseconds. -/
structure Config where
  binary : String := defaultBinary
  path? : Option String := none
  onlyChangedRegions : Bool := false
  output : Protocol := .replacements
  wholeFileOffsets : Bool := false
  writeTimeout : Nat := defaultTimeout
  exitTimeout : Nat := defaultTimeout
  extraArguments : List String := []
deriving DecidableEq

end Reformat

------------------------------------------------------------
-- Normal Form
------------------------------------------------------------

namespace Reformat

namespace Config

/- A path with its variables replaced, if all can be. -/
def expandPath
    (h : Host)
    (path : String) : String :=
  (Template.expand? h.setting? h.home? path).getD path

/-
  The choices as they are used: a blank name means the usual
  formatter, and a blank path means none.
-/
def normalized
    (c : Config)
    (h : Host) : Config :=
  { c with
    binary := (unlessBlank c.binary).getD defaultBinary
    path? := (c.path?.bind unlessBlank).map (expandPath h) }

end Config

end Reformat

------------------------------------------------------------
-- Sessions
------------------------------------------------------------

namespace Reformat

namespace Config

/- How long a formatter may take. -/
def timeouts (c : Config) : Timeouts where
  write := .ofMilliseconds c.writeTimeout
  exit := .ofMilliseconds c.exitTimeout

/-
  The session of a user whose programs are in the usual
  places.  A text is reported with one byte more than it has.
-/
def session
    (c : Config)
    (h : Host) : Session where
  locator :=
    let places := Locator.usualPlaces (h.setting? "HOME")
    (Locator.ofBinary c.binary places).withPath c.path?
  dialect := ⟨c.output, c.wholeFileOffsets⟩
  selector := ⟨c.onlyChangedRegions, 1⟩
  timeouts := c.timeouts
  extraArguments := c.extraArguments

end Config

end Reformat
