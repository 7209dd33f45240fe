import Reformat.Files.Error

/-
  Programs, seen from outside.

  A program answers a call with a course of events: how it
  takes its input, what it prints, and how it ends, if it ends.
  What it does to files on its own is left out.

  Key definitions include:
    * `Call`
    * `Course`
    * `Program`
    * `Habit`
-/

------------------------------------------------------------
-- Calls And Courses
------------------------------------------------------------

namespace Reformat

/- What a program is started with. -/
structure Call where
  arguments : List String
  environment : List (String × String)
  input : ByteArray

/- How the input reaches a program.  It is written by a task,
  which may itself be lost. -/
inductive Delivery
  | complete
  | stuck
  | broken (cause : SystemError)
  | lost (words : String)

/- How a program ends, if the system can tell. -/
inductive Ending
  | code (n : Int)
  | signal
  | unknown (cause : SystemError)
deriving DecidableEq

/- What comes out of a stream after the program has ended.  It
  is read by a task, which may itself be lost. -/
inductive Output
  | closed (bytes : ByteArray)
  | leftOpen
  | failed (bytes : ByteArray) (cause : SystemError)
  | lost (words : String)

/- What happens when a program is started.  A program that has
  no ending runs on. -/
structure Course where
  delivery : Delivery
  ending? : Option Ending
  stdout : Output
  stderr : Output

/- A program is how it answers calls. -/
abbrev Program := Call → Course

/- The code of an ending that has one. -/
def Ending.code? : Ending → Option Int
  | .code n => some n
  | .signal => none
  | .unknown _ => none

/- The bytes that a stream gave up to its end, or up to an
  error.  No one waits for what is left open. -/
def Output.arrived : Output → ByteArray
  | .closed bytes => bytes
  | .failed bytes _ => bytes
  | .leftOpen => .empty
  | .lost _ => .empty

end Reformat

------------------------------------------------------------
-- Habits
------------------------------------------------------------

namespace Reformat

/- Where a program stops for good. -/
inductive Halt
  | never
  | beforeReading
  | afterReading
deriving DecidableEq

/-
  A program that always does the same: read its input or leave
  it, print, and end, unless it halts on the way.  Another
  program that it started may keep its streams open.
-/
structure Habit where
  reads : Bool := true
  halt : Halt := .never
  stdout : ByteArray := .empty
  stderr : ByteArray := .empty
  ending : Ending := .code 0
  keepsStdout : Bool := false
  keepsStderr : Bool := false

namespace Habit

/- The bytes that a pipe holds for a program that does not
  read. -/
def pipeCapacity : Nat := 65536

/- How the input reaches the program. -/
def delivery
    (h : Habit)
    (input : ByteArray) : Delivery :=
  if h.reads && h.halt ≠ .beforeReading then .complete
  else if input.size ≤ pipeCapacity then .complete
  else if h.halt = .never then .broken .brokenPipe
  else .stuck

/- What comes out of a stream that may be kept open. -/
def output
    (kept : Bool)
    (bytes : ByteArray) : Output :=
  if kept then .leftOpen else .closed bytes

/- The program of a habit. -/
def program (h : Habit) : Program := fun call =>
  { delivery := h.delivery call.input
    ending? := if h.halt = .never then some h.ending else none
    stdout := output h.keepsStdout h.stdout
    stderr := output h.keepsStderr h.stderr }

end Habit

end Reformat
