import Reformat.Proofs.Session.Trial

/-
  How formatting a document ends.

  There is a patch only when the trial of the formatter has no
  fault.  Otherwise there was nothing to format, or the answer
  is the first fault, and the document is what it was.

  Key definitions include:
    * `Session.trial`

  Main statements:
    * `Session.formatDocument_of_none`
    * `Session.formatDocument_of_some`
    * `Session.formatDocument_result`
-/

------------------------------------------------------------
-- Requests And Runs
------------------------------------------------------------

namespace Reformat

namespace OnHost

/- One thing is done on the host that another has left. -/
theorem run_bind
    {α β : Type}
    (x : OnHost α)
    (next : α → OnHost β)
    (h : Host) :
    (x >>= next).run h =
      (next (x.run h).1).run (x.run h).2 :=
  rfl

end OnHost

namespace Session

/- A scope that is empty is told and not formatted. -/
theorem run_prepare
    (s : Session)
    (mode : Mode)
    (v : View)
    (changes : OnHost Changes)
    (h : Host) :
    (s.prepare mode v changes).run h =
      let asked := (s.scope mode v changes).run h
      if asked.1.IsEmpty then
        (none,
          { asked.2 with
            notices :=
              asked.2.notices.push (.nothingChanged v.path) })
      else
        let located := s.locator.locate.run asked.2
        (some
          { path := v.path
            cursor := s.cursor v
            scope := asked.1
            binary := located.1.command
            extraArguments := s.extraArguments
            environment := located.1.environment },
          located.2) := by
  unfold prepare
  rw [OnHost.run_bind]
  rcases (s.scope mode v changes).run h with ⟨scope, h'⟩
  change StateT.run (ite _ _ _) h' = _
  simp only
  split
  · rfl
  · rfl

/- The trial that a session makes of a request on a host. -/
def trial
    (s : Session)
    (d : Document)
    (r : Request)
    (h : Host) : Trial :=
  let i := s.dialect.invocation r
  { document := d
    protocol := s.dialect.protocol
    limits := s.timeouts
    invocation := i
    launched := ((Host.start i d.text.toByteArray).run h).1 }

/- What a run answers is the reply of its trial. -/
theorem run_run_fst
    (s : Session)
    (d : Document)
    (r : Request)
    (h : Host) :
    ((s.run r d.text).run h).1 = (s.trial d r h).reply := by
  let i := s.dialect.invocation r
  rcases hStart : (Host.start i d.text.toByteArray).run h
    with ⟨launched, h'⟩
  have hTrial : (s.trial d r h).launched = launched :=
    congrArg Prod.fst hStart
  unfold Trial.reply run Host.launch
  rw [hTrial, OnHost.run_bind, OnHost.run_bind, hStart]
  cases launched with
  | error cause => rfl
  | ok c =>
      let told :=
        Host.notifyAll (readingNotices s.dialect.protocol c)
      change
        (StateT.run (told >>= _) h').1 =
          replyOf s.dialect.protocol s.timeouts i.commandLine
            c
      rw [OnHost.run_bind]
      cases replyOf s.dialect.protocol s.timeouts
          i.commandLine c with
      | ok reply => rfl
      | error e => rfl

end Session

end Reformat

------------------------------------------------------------
-- Documents
------------------------------------------------------------

namespace Reformat

namespace Session

/- With nothing to do, a document is left as it is. -/
theorem formatDocument_of_none
    {s : Session}
    {mode : Mode}
    {d : Document}
    {path : String}
    {changes : OnHost Changes}
    {h h' : Host}
    (hPrepare :
      (s.prepare mode (d.view s.selector path)
          changes).run h =
        (none, h')) :
    (s.formatDocument mode d path changes).run h =
      ((d, .ok none), h') := by
  unfold formatDocument
  rw [OnHost.run_bind, hPrepare]
  rfl

/-
  A request ends with the fault of its trial, or with the
  document that the trial makes.
-/
theorem formatDocument_of_some
    {s : Session}
    {mode : Mode}
    {d : Document}
    {path : String}
    {changes : OnHost Changes}
    {h h' : Host}
    {r : Request}
    (hPrepare :
      (s.prepare mode (d.view s.selector path)
          changes).run h =
        (some r, h')) :
    (∃ e,
        (s.trial d r h').fault? = some e ∧
          ((s.formatDocument mode d path changes).run h).1 =
            (d, .error e)) ∨
      ∃ d' patch,
        (s.trial d r h').Succeeds d' patch ∧
          ((s.formatDocument mode d path changes).run h).1 =
            (d', .ok (some patch)) := by
  have hRun := s.run_run_fst d r h'
  unfold formatDocument
  rw [OnHost.run_bind, hPrepare, OnHost.run_bind]
  rcases hAnswer : (s.run r d.text).run h' with
    ⟨answer, h''⟩
  rw [hAnswer] at hRun
  cases answer with
  | error e =>
      left
      exact ⟨e, Trial.fault?_of_reply_error hRun.symm, rfl⟩
  | ok reply =>
      have hReply := hRun.symm
      cases hEdit :
          (Edit.applyReply (Draft.ofDocument d) reply).2 with
      | error cause =>
          have hSame :
              d.transact (Edit.applyReply · reply) =
                (d, .error cause) :=
            Document.transact_of_error hEdit
          have hCommit :
              commit d reply = (d, .error (.edit cause)) := by
            rw [commit, hSame]
            rfl
          left
          refine
            ⟨.edit cause,
              Trial.fault?_of_edit_error hReply hEdit, ?_⟩
          simp only [hCommit]
          rfl
      | ok _ =>
          rcases
              @Document.exists_transact_of_ok _ d
                (Edit.applyReply · reply) hEdit with
            ⟨d', patch, hMade⟩
          have hCommit :
              commit d reply = (d', .ok patch) := by
            rw [commit, hMade]
            rfl
          right
          refine
            ⟨d', patch,
              Trial.succeeds_of_reply_ok hReply hMade, ?_⟩
          simp only [hCommit]
          rfl

/-
  There is a patch just when the formatter was started, took
  all its input, ended well and printed a reply that is read
  and made.  Nothing is answered, and the formatter not run,
  just when there is nothing to format.  Otherwise the answer
  is the first fault of the trial, however many it has.  The
  document changes only when there is a patch.
-/
theorem formatDocument_result
    (s : Session)
    (mode : Mode)
    (d : Document)
    (path : String)
    (changes : OnHost Changes)
    (h : Host) :
    let view := d.view s.selector path
    let asked := (s.scope mode view changes).run h
    let prepared := (s.prepare mode view changes).run h
    let done := (s.formatDocument mode d path changes).run h
    (done.1.2 = .ok none ↔ asked.1.IsEmpty) ∧
      (asked.1.IsEmpty → done.2.calls = asked.2.calls) ∧
      (∀ e,
        done.1.2 = .error e ↔
          ∃ r,
            prepared.1 = some r ∧
              (s.trial d r prepared.2).fault? = some e) ∧
      (∀ d' patch,
        done.1 = (d', .ok (some patch)) ↔
          ∃ r,
            prepared.1 = some r ∧
              (s.trial d r prepared.2).Succeeds d' patch) ∧
      ((∀ patch, done.1.2 ≠ .ok (some patch)) →
        done.1.1 = d) := by
  intro view asked prepared done
  have hPrepare := s.run_prepare mode view changes h
  by_cases hEmpty : asked.1.IsEmpty
  · have hNone :
        prepared =
          (none,
            { asked.2 with
              notices :=
                asked.2.notices.push
                  (.nothingChanged view.path) }) :=
      hPrepare.trans (if_pos hEmpty)
    have hDone : done = ((d, .ok none), _) :=
      formatDocument_of_none hNone
    rw [hDone, hNone]
    simp [hEmpty]
  · have hSome := hPrepare.trans (if_neg hEmpty)
    rcases hPrepared : prepared with ⟨request, h'⟩
    have hRequest : ∃ r, request = some r :=
      ⟨_, congrArg Prod.fst (hPrepared.symm.trans hSome)⟩
    rcases hRequest with ⟨r, rfl⟩
    rcases formatDocument_of_some hPrepared with
      ⟨e, hFault, hDone⟩ | ⟨d', patch, hSucceeds, hDone⟩
    · have hNot :
          ∀ d' patch, ¬ (s.trial d r h').Succeeds d' patch := by
        intro d' patch hSucceeds
        rw [hSucceeds.fault?_eq_none] at hFault
        cases hFault
      have hDone : done.1 = (d, .error e) := hDone
      rw [hDone]
      simp [hEmpty, hFault, hNot]
    · have hDone : done.1 = (d', .ok (some patch)) := hDone
      have hNone := hSucceeds.fault?_eq_none
      have hOnly :
          ∀ d₁ patch₁,
            (s.trial d r h').Succeeds d₁ patch₁ ↔
              d' = d₁ ∧ patch = patch₁ := by
        intro d₁ patch₁
        constructor
        · exact hSucceeds.unique
        · rintro ⟨rfl, rfl⟩
          exact hSucceeds
      rw [hDone]
      simp [hEmpty, hNone, hOnly]

end Session

end Reformat
