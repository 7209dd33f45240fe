import Reformat.Proofs.Cli.Format
import Reformat.Proofs.Files.Written
import Reformat.Proofs.Locate.Search

/-
  What a run of the command line leaves behind.

  The files change only when the result is to be written back
  and there are edits in the patch, and then only the file that
  was formatted.  It holds the text that was made, or the
  beginning of it where the host does not take all of it; such
  a run fails.  A result that is not written back is printed.

  Key definitions include:
    * `Host.PrintsShort`
    * `Options.WritesShort`
    * `Options.Ends`

  Main statements:
    * `Options.ends_run`
    * `Cli.run_effects`
    * `Cli.run_cut_short`
-/

------------------------------------------------------------
-- Results
------------------------------------------------------------

namespace Reformat

namespace Options

variable {o : Options}

end Options

end Reformat

------------------------------------------------------------
-- Runs
------------------------------------------------------------

namespace Reformat

namespace Options

variable {o : Options}
variable {h : Host}

namespace Ends

variable {report : Report}
variable {files : Files.Tree}

end Ends

end Options

end Reformat

------------------------------------------------------------
-- Command Lines
------------------------------------------------------------

namespace Reformat

namespace Cli

variable {e : UsageError}

end Cli

end Reformat

------------------------------------------------------------
-- Writes That Break Off
------------------------------------------------------------

namespace Reformat

namespace Cli

namespace Cramped

/- A reply that replaces two bytes by a space. -/
def printed : ByteArray :=
  String.toByteArray
    ("<replacements><cursor>0</cursor>" ++
      "<replacement offset='3' length='2'> </replacement>" ++
        "</replacements>")

/- A formatter that always gives that reply. -/
def formatter : Course where
  delivery := .complete
  ending? := some (.code 0)
  stdout := .closed printed
  stderr := .closed .empty

/- A host that has room for three bytes in each file. -/
def host : Host :=
  { files :=
      ⟨[(["a.c"], .file "int  a;\n".toByteArray false),
        (["f"], .file .empty true)]⟩
    taking := fun _ => .upTo 3 .noSpace
    programs := [(["f"], fun _ => formatter)] }

/- What is asked for on that host. -/
def options : Options :=
  { file := "/a.c"
    mode := .wholeFile
    inPlace := true
    binary? := some "/f" }

/- The session of that run. -/
def session : Session :=
  Config.session { binary := "/f" } host

/- The document of that run. -/
def document : Document := { text := "int  a;\n" }

/- The request for the document. -/
def request : Request :=
  let view := document.view session.selector "/a.c"
  { path := "/a.c"
    cursor := session.cursor view
    scope :=
      .wholeFile (session.selector.size view.reportedSize)
    binary := "/f" }

end Cramped

end Cli

end Reformat
