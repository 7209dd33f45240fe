import Reformat.Duration
import Reformat.Edit.Error
import Reformat.Files.Error
import Reformat.Reply.Error

/-
  Everything that can stop a formatting run.

  Key definitions include:
    * `Failure`
    * `Failure.message`
    * `Failure.chain`
-/

------------------------------------------------------------
-- Failures
------------------------------------------------------------

namespace Reformat

/- Why a run ended without an answer from the formatter. -/
inductive Interruption
  | outputLeftOpen (command : String)
  | described (words : String)
deriving DecidableEq

/- Why a formatting run failed. -/
inductive Failure
  | launch (program command : String) (cause : SystemError)
  | writeTimeout (limit : Duration) (command : String)
  | exitTimeout (limit : Duration) (command : String)
  | nonzeroExit
      (code? : Option Int)
      (stderr command : String)
  | write (cause : SystemError)
  | read (cause : SystemError)
  | reply (cause : ReplyError)
  | edit (cause : EditError)
  | interrupted (cause : Interruption)
deriving DecidableEq

end Reformat

------------------------------------------------------------
-- Messages
------------------------------------------------------------

namespace Reformat

/- The interruption in words. -/
def Interruption.message : Interruption → String
  | .outputLeftOpen command =>
      s!"output of {command} did not close after exit"
  | .described words => words

namespace Failure

/- How a program ended, in words. -/
def exitWords : Option Int → String
  | some code => s!"exit code {code}"
  | none => "termination by signal"

/- The failure in words. -/
def message : Failure → String
  | .launch program command cause =>
      s!"running {program} failed - not installed? " ++
        s!"Try running it in a shell: {command}. " ++
        cause.message
  | .writeTimeout limit command =>
      s!"timed out after {limit.toText} writing the " ++
        s!"source file to the formatter ({command})"
  | .exitTimeout limit command =>
      s!"timed out after {limit.toText} waiting for the " ++
        s!"formatter to finish ({command})"
  | .nonzeroExit code? stderr command =>
      s!"{command} failed with {exitWords code?}, " ++
        s!"error: {stderr}"
  | .write cause =>
      s!"writing to the formatter failed: {cause.message}"
  | .read cause =>
      s!"reading formatter output failed: {cause.message}"
  | .reply cause =>
      s!"failed to parse formatter output: {cause.message}"
  | .edit cause =>
      s!"failed to apply formatter edits: {cause.message}"
  | .interrupted cause =>
      s!"formatting was interrupted: {cause.message}"

/- The messages of the errors that a failure comes from. -/
def sources : Failure → List String
  | .launch _ _ cause => [cause.message]
  | .write cause => [cause.message]
  | .read cause => [cause.message]
  | .reply cause => cause.message :: cause.sources
  | .edit cause => [cause.message]
  | _ => []

/- The failure and all it comes from, in words. -/
def chain (f : Failure) : String :=
  ": ".intercalate (f.message :: f.sources)

end Failure

end Reformat
