/-
  Errors of the system that programs run on, and what it takes
  of bytes that are written.

  Key definitions include:
    * `SystemError`
    * `SystemError.message`
    * `Taking`
-/

------------------------------------------------------------
-- System Errors
------------------------------------------------------------

namespace Reformat

/- Why the system refuses a request. -/
inductive SystemError
  | notFound
  | permissionDenied
  | fileExists
  | notDirectory
  | isDirectory
  | brokenPipe
  | nameTooLong
  | tooManyLinks
  | noSpace
  | unknownProgram
  | invalidText
  | zeroInName
  | zeroInArgument
  | described (words : String)
deriving DecidableEq

end Reformat

namespace Reformat.SystemError

/- The error in words. -/
def message : SystemError → String
  | .notFound => "No such file or directory (os error 2)"
  | .permissionDenied => "Permission denied (os error 13)"
  | .fileExists => "File exists (os error 17)"
  | .notDirectory => "Not a directory (os error 20)"
  | .isDirectory => "Is a directory (os error 21)"
  | .brokenPipe => "Broken pipe (os error 32)"
  | .nameTooLong => "File name too long (os error 36)"
  | .tooManyLinks =>
      "Too many levels of symbolic links (os error 40)"
  | .noSpace => "No space left on device (os error 28)"
  | .unknownProgram => "Exec format error (os error 8)"
  | .invalidText => "stream did not contain valid UTF-8"
  | .zeroInName =>
      "file name contained an unexpected NUL byte"
  | .zeroInArgument => "nul byte found in provided data"
  | .described words => words

end Reformat.SystemError

------------------------------------------------------------
-- Written Bytes
------------------------------------------------------------

namespace Reformat

/-
  How a system takes bytes that are written: all of them, none
  since it does not even open what they are written to, or as
  many as there is room for.
-/
inductive Taking
  | whole
  | refused (cause : SystemError)
  | upTo (room : Nat) (cause : SystemError)

namespace Taking

/- The error of writing some bytes, unless all are taken. -/
def error? (w : Taking) (bytes : ByteArray) :
    Option SystemError :=
  match w with
  | .whole => none
  | .refused cause => some cause
  | .upTo room cause =>
      if room < bytes.size then some cause else none

/- Those of some bytes that are taken, if any may be. -/
def taken? (w : Taking) (bytes : ByteArray) :
    Option ByteArray :=
  match w with
  | .whole => some bytes
  | .refused _ => none
  | .upTo room _ => some (bytes.extract 0 room)

/- Whether some bytes are all taken. -/
def result (w : Taking) (bytes : ByteArray) :
    Except SystemError Unit :=
  match w.error? bytes with
  | none => .ok ()
  | some cause => .error cause

end Taking

end Reformat
