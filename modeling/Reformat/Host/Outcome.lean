import Reformat.Failure
import Reformat.Host.Basic
import Reformat.Text.Blank
import Reformat.Text.Utf8

/-
  Running a program on a text within limits of time.

  Several things may go wrong in one run.  The failure is the
  first of: the program does not start, does not take its
  input in time, does not end in time, ends in a way that the
  system cannot tell, ends with an error, closed its input
  early, or left its output unreadable.  All its streams are
  there from the start, so none of them can be missing.

  Key definitions include:
    * `Timeouts`
    * `Outcome`
    * `Course.judge`
    * `Host.run`
-/

------------------------------------------------------------
-- Outcomes
------------------------------------------------------------

namespace Reformat

/- How long the input may take, and then the rest. -/
structure Timeouts where
  write : Duration := .ofSeconds 5 0
  exit : Duration := .ofSeconds 5 0
deriving DecidableEq

/- What a program that did its work leaves behind. -/
structure Outcome where
  exitCode? : Option Int
  stdout : ByteArray
  stderr : String

/- A program that ended well. -/
def Ending.IsSuccess (e : Ending) : Prop :=
  e = .code 0

/- Ending well is decidable. -/
instance (e : Ending) : Decidable e.IsSuccess := by
  unfold Ending.IsSuccess
  infer_instance

namespace Course

/- The error messages, none if their stream stays open. -/
def errors (c : Course) : String :=
  Text.Utf8.decodeLossy c.stderr.arrived

/- The outcome of a course, or what went wrong first. -/
def judge
    (limits : Timeouts)
    (command : String)
    (c : Course) : Except Failure Outcome :=
  match c.delivery, c.ending? with
  | .stuck, _ =>
      .error (.writeTimeout limits.write command)
  | _, none => .error (.exitTimeout limits.exit command)
  | _, some (.unknown cause) => .error (.read cause)
  | delivery, some ending =>
      if ¬ ending.IsSuccess then
        .error
          (.nonzeroExit ending.code?
            (Text.trimEnd c.errors) command)
      else
        match delivery, c.stdout with
        | .broken cause, _ => .error (.write cause)
        | .lost words, _ =>
            .error (.interrupted (.described words))
        | _, .failed _ cause => .error (.read cause)
        | _, .lost words =>
            .error (.interrupted (.described words))
        | _, .leftOpen =>
            .error (.interrupted (.outputLeftOpen command))
        | _, .closed bytes =>
            .ok ⟨ending.code?, bytes, c.errors⟩

end Course

end Reformat

------------------------------------------------------------
-- Runs
------------------------------------------------------------

namespace Reformat

namespace Host

/- The notices that a failure leads to. -/
def failureNotices : Failure → List Notice
  | .writeTimeout _ command => [.writeTimedOut command]
  | .exitTimeout _ command => [.exitTimedOut command]
  | _ => []

/- Tell some things in order. -/
def notifyAll (ns : List Notice) : OnHost Unit :=
  modify fun h =>
    { h with notices := h.notices ++ ns.toArray }

/- Start a program; a failure names the command line. -/
def launch
    (i : Invocation)
    (text : String) :
    OnHost (Except Failure Course) := do
  match ← start i text.toByteArray with
  | .ok course => return .ok course
  | .error cause =>
      return .error (.launch i.program i.commandLine cause)

/- Run a program on a text. -/
def run
    (limits : Timeouts)
    (i : Invocation)
    (text : String) :
    OnHost (Except Failure Outcome) := do
  match ← launch i text with
  | .error e => return .error e
  | .ok course =>
      match course.judge limits i.commandLine with
      | .ok outcome => return .ok outcome
      | .error e =>
          notifyAll (failureNotices e)
          return .error e

end Host

end Reformat
