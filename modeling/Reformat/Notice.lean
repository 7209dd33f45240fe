/-
  Notices: what a run tells about itself as it goes.

  Key definitions include:
    * `Notice`
    * `Notice.level`
    * `Notice.message`
-/

------------------------------------------------------------
-- Notices
------------------------------------------------------------

namespace Reformat

/- How much a notice matters. -/
inductive Level
  | info
  | warning
deriving DecidableEq

/- Something worth telling. -/
inductive Notice
  | incompleteFormat
  | nothingChanged (path : String)
  | formatted (path : String) (edits caret : Nat)
  | writeTimedOut (command : String)
  | exitTimedOut (command : String)
  | shellWithoutPath (shell : String)
  | shellTimedOut (shell : String)
  | shellFailed (shell error : String)
  | historyFailed (error : String)
  | diffFailed (path error : String)
  | diffTooLarge (path : String)
deriving DecidableEq

end Reformat

namespace Reformat.Notice

/- The level of a notice. -/
def level : Notice → Level
  | .nothingChanged _ => .info
  | .formatted _ _ _ => .info
  | .diffTooLarge _ => .info
  | _ => .warning

/- The notice in words. -/
def message : Notice → String
  | .incompleteFormat =>
      "formatter reported an incomplete format"
  | .nothingChanged path =>
      s!"no changed regions in {path}, nothing to format"
  | .formatted path edits caret =>
      s!"formatted {path}: {edits} edits, cursor at {caret}"
  | .writeTimedOut command =>
      s!"timed out writing to {command}, killed it"
  | .exitTimedOut command =>
      s!"{command} did not exit in time, killed it"
  | .shellWithoutPath shell =>
      s!"login shell {shell} printed no PATH"
  | .shellTimedOut shell =>
      s!"login shell {shell} did not report PATH within " ++
        "3000ms"
  | .shellFailed shell error =>
      s!"could not run login shell {shell}: {error}"
  | .historyFailed error => s!"could not run git: {error}"
  | .diffFailed path error =>
      s!"git diff failed for {path}: {error}"
  | .diffTooLarge path =>
      s!"diff for {path} is too large, formatting more"

/- The notice after its level. -/
def line (n : Notice) : String :=
  match n.level with
  | .info => "INFO " ++ n.message
  | .warning => "WARN " ++ n.message

end Reformat.Notice
