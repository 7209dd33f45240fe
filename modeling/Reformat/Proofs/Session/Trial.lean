import Reformat.Proofs.Attempt
import Reformat.Session

/-
  What may go wrong when a document is formatted, and what is
  told when several things do.

  What is wrong at a stage is said of the course that the
  formatter took, whatever is wrong at the others.  The fault
  of a trial is that of the first stage that has one.

  Key definitions include:
    * `Stage`
    * `Trial`
    * `Trial.faultAt?`, `Trial.fault?`
    * `Trial.Succeeds`

  Main statements:
    * `Trial.fault?_of_reply_error`
    * `Trial.fault?_of_edit_error`
    * `Trial.succeeds_of_reply_ok`
    * `Trial.Succeeds.fault?_eq_none`
-/

------------------------------------------------------------
-- Stages
------------------------------------------------------------

namespace Reformat

/-
  The stages of a run.  What goes wrong in waiting is not the
  formatter's doing: the system cannot tell how it ended.
-/
inductive Stage
  | launch
  | writeTimeout
  | exitTimeout
  | wait
  | nonzeroExit
  | write
  | read
  | reply
  | edit
deriving DecidableEq

/- All stages, in the order in which their faults are told. -/
def Stage.all : List Stage :=
  [.launch, .writeTimeout, .exitTimeout, .wait,
    .nonzeroExit, .write, .read, .reply, .edit]

end Reformat

------------------------------------------------------------
-- Trials
------------------------------------------------------------

namespace Reformat

/-
  A formatter that was started on a document's text: how its
  output is read, how long it may take, and what came of it.
-/
structure Trial where
  document : Document
  protocol : Protocol
  limits : Timeouts
  invocation : Invocation
  launched : Except SystemError Course

namespace Trial

/- The command line that faults name. -/
def command (t : Trial) : String :=
  t.invocation.commandLine

/- The course of a formatter that was started. -/
def course? (t : Trial) : Option Course :=
  t.launched.toOption

/- What all that was printed is read as. -/
def read? (t : Trial) : Option (Except ReplyError Reply) :=
  match t.course?.map Course.stdout with
  | some (.closed bytes) =>
      some (Reply.read t.protocol bytes).result
  | _ => none

/- What came of the edits of a reply that was read. -/
def edited? (t : Trial) : Option (Except EditError Unit) :=
  match t.read? with
  | some (.ok reply) =>
      let draft := Draft.ofDocument t.document
      some (Edit.applyReply draft reply).2
  | _ => none

/- What is wrong at a stage, whatever is wrong at others. -/
def faultAt? (t : Trial) : Stage → Option Failure
  | .launch =>
      match t.launched with
      | .error cause =>
          some
            (.launch t.invocation.program t.command cause)
      | .ok _ => none
  | .writeTimeout =>
      match t.course?.map Course.delivery with
      | some .stuck =>
          some (.writeTimeout t.limits.write t.command)
      | _ => none
  | .exitTimeout =>
      match t.course?.map Course.ending? with
      | some none =>
          some (.exitTimeout t.limits.exit t.command)
      | _ => none
  | .wait =>
      -- The system cannot tell how the program ended.
      match t.course?.map Course.ending? with
      | some (some (.unknown cause)) => some (.read cause)
      | _ => none
  | .nonzeroExit => do
      let c ← t.course?
      let ending ← c.ending?
      match ending with
      | .code 0 | .unknown _ => none
      | ending =>
          some
            (.nonzeroExit ending.code?
              (Text.trimEnd c.errors) t.command)
  | .write =>
      match t.course?.map Course.delivery with
      | some (.broken cause) => some (.write cause)
      -- So is a writer that is lost, and a reader below.
      | some (.lost words) =>
          some (.interrupted (.described words))
      | _ => none
  | .read =>
      match t.course?.map Course.stdout with
      | some (.failed _ cause) => some (.read cause)
      | some (.lost words) =>
          some (.interrupted (.described words))
      -- An output that stays open is told in the same place.
      | some .leftOpen =>
          some (.interrupted (.outputLeftOpen t.command))
      | _ => none
  | .reply =>
      match t.read? with
      | some (.error cause) => some (.reply cause)
      | _ => none
  | .edit =>
      match t.edited? with
      | some (.error cause) => some (.edit cause)
      | _ => none

/- The fault of the first stage that has one. -/
def fault? (t : Trial) : Option Failure :=
  Stage.all.findSome? t.faultAt?

/-
  The formatter was started, took all its input, ended well
  and printed a reply whose edits make a document.
-/
inductive Succeeds
    (t : Trial) :
    Document → Patch → Prop
  | intro
      {c : Course}
      {bytes : ByteArray}
      {reply : Reply}
      {d : Document}
      {patch : Patch}
      (hLaunch : t.launched = .ok c)
      (hInput : c.delivery = .complete)
      (hEnding : c.ending? = some (.code 0))
      (hOutput : c.stdout = .closed bytes)
      (hRead :
        (Reply.read t.protocol bytes).result = .ok reply)
      (hEdit :
        t.document.transact (Edit.applyReply · reply) =
          (d, .ok patch)) :
      Succeeds t d patch

end Trial

end Reformat

------------------------------------------------------------
-- Transactions
------------------------------------------------------------

namespace Reformat

namespace Document

variable {ε : Type}
variable {d : Document}
variable {edit : Draft → Draft × Except ε Unit}

/- An edit that fails leaves the document as it was. -/
theorem transact_of_error
    {e : ε}
    (hError : (edit (Draft.ofDocument d)).2 = .error e) :
    d.transact edit = (d, .error e) := by
  rcases hEdit : edit (Draft.ofDocument d) with ⟨t, result⟩
  rw [hEdit] at hError
  simp only at hError
  unfold transact
  rw [hEdit, hError]

/- A transaction is finished when its edit succeeds. -/
theorem exists_transact_of_ok
    (hOk : (edit (Draft.ofDocument d)).2 = .ok ()) :
    ∃ d' patch, d.transact edit = (d', .ok patch) := by
  rcases hEdit : edit (Draft.ofDocument d) with ⟨t, result⟩
  rw [hEdit] at hOk
  simp only at hOk
  unfold transact
  rw [hEdit, hOk]
  exact ⟨_, _, rfl⟩

/- The edit of a finished transaction has succeeded. -/
theorem edit_of_transact_ok
    {d' : Document}
    {patch : Patch}
    (h : d.transact edit = (d', .ok patch)) :
    (edit (Draft.ofDocument d)).2 = .ok () := by
  cases hResult : (edit (Draft.ofDocument d)).2 with
  | error e =>
      rw [transact_of_error hResult] at h
      cases (Prod.mk.inj h).2
  | ok _ => rfl

end Document

end Reformat

------------------------------------------------------------
-- Replies
------------------------------------------------------------

namespace Reformat

namespace Trial

/- The reply of a trial, or the failure that is told. -/
def reply (t : Trial) : Except Failure Reply :=
  match t.launched with
  | .error cause =>
      .error (.launch t.invocation.program t.command cause)
  | .ok c =>
      Session.replyOf t.protocol t.limits t.command c

variable {t : Trial}

/- The fault of a trial whose formatter was not started. -/
theorem fault?_of_not_launched
    {cause : SystemError}
    (hLaunch : t.launched = .error cause) :
    t.fault? =
      some
        (.launch t.invocation.program t.command cause) := by
  simp [fault?, Stage.all, faultAt?, hLaunch]

/- An input that nothing goes wrong with is taken. -/
theorem eq_complete_of_ne
    {delivery : Delivery}
    (hStuck : delivery ≠ .stuck)
    (hBroken : ∀ cause, delivery ≠ .broken cause)
    (hLost : ∀ words, delivery ≠ .lost words) :
    delivery = .complete := by
  cases delivery with
  | complete => rfl
  | stuck => exact absurd rfl hStuck
  | broken cause => exact absurd rfl (hBroken cause)
  | lost words => exact absurd rfl (hLost words)

section

variable {c : Course}
variable (hLaunch : t.launched = .ok c)

include hLaunch

/- The course of a formatter that was started. -/
theorem course?_of_launched : t.course? = some c := by
  rw [course?, hLaunch]
  rfl

/- A formatter that was started has no fault before that. -/
theorem faultAt?_launch : t.faultAt? .launch = none := by
  rw [faultAt?, hLaunch]

/- An input that is taken or refused does not time out. -/
theorem faultAt?_writeTimeout
    (hInput : c.delivery ≠ .stuck) :
    t.faultAt? .writeTimeout = none := by
  rw [faultAt?, course?_of_launched hLaunch, Option.map_some]
  cases hDelivery : c.delivery with
  | stuck => exact absurd hDelivery hInput
  | complete => rfl
  | broken cause => rfl
  | lost words => rfl

/- A formatter that ended was not waited for too long. -/
theorem faultAt?_exitTimeout
    {ending : Ending}
    (hEnding : c.ending? = some ending) :
    t.faultAt? .exitTimeout = none := by
  rw [faultAt?, course?_of_launched hLaunch, Option.map_some,
    hEnding]

/- An ending that the system can tell was waited for. -/
theorem faultAt?_wait
    {ending : Ending}
    (hEnding : c.ending? = some ending)
    (hKnown : ∀ cause, ending ≠ .unknown cause) :
    t.faultAt? .wait = none := by
  rw [faultAt?, course?_of_launched hLaunch, Option.map_some,
    hEnding]
  cases ending with
  | code n => rfl
  | signal => rfl
  | unknown cause => exact absurd rfl (hKnown cause)

/- A formatter that ended well has no fault at its end. -/
theorem faultAt?_nonzeroExit
    (hEnding : c.ending? = some (.code 0)) :
    t.faultAt? .nonzeroExit = none := by
  simp [faultAt?, course?_of_launched hLaunch, hEnding]

/- A formatter that ended in another way has one there. -/
theorem faultAt?_nonzeroExit_of_not
    {ending : Ending}
    (hEnding : c.ending? = some ending)
    (hKnown : ∀ cause, ending ≠ .unknown cause)
    (hNot : ¬ ending.IsSuccess) :
    t.faultAt? .nonzeroExit =
      some
        (.nonzeroExit ending.code? (Text.trimEnd c.errors)
          t.command) := by
  simp only [faultAt?, course?_of_launched hLaunch, hEnding,
    Option.bind_eq_bind, Option.bind_some]
  split
  · exact absurd rfl hNot
  · next cause => exact absurd rfl (hKnown cause)
  · rfl

/- All the input was taken. -/
theorem faultAt?_write
    (hInput : c.delivery = .complete) :
    t.faultAt? .write = none := by
  rw [faultAt?, course?_of_launched hLaunch, Option.map_some,
    hInput]

/- All the output was read. -/
theorem faultAt?_read
    {bytes : ByteArray}
    (hOutput : c.stdout = .closed bytes) :
    t.faultAt? .read = none := by
  rw [faultAt?, course?_of_launched hLaunch, Option.map_some,
    hOutput]

/- What was printed to the end is read. -/
theorem read?_of_closed
    {bytes : ByteArray}
    (hOutput : c.stdout = .closed bytes) :
    t.read? = some (Reply.read t.protocol bytes).result := by
  rw [read?, course?_of_launched hLaunch, Option.map_some,
    hOutput]

/-
  When a formatter took its input in time and ended well, what
  is left to fail are its streams, the reply and its edits.
-/
theorem fault?_of_ended_well
    (hInput : c.delivery ≠ .stuck)
    (hEnding : c.ending? = some (.code 0)) :
    t.fault? =
      [Stage.write, .read, .reply, .edit].findSome?
        t.faultAt? := by
  simp [fault?, Stage.all, faultAt?_launch hLaunch,
    faultAt?_writeTimeout hLaunch hInput,
    faultAt?_exitTimeout hLaunch hEnding,
    faultAt?_wait hLaunch hEnding,
    faultAt?_nonzeroExit hLaunch hEnding]

/- When all went well up to the output, it is the reply and its
  edits. -/
theorem fault?_of_closed
    {bytes : ByteArray}
    (hInput : c.delivery = .complete)
    (hEnding : c.ending? = some (.code 0))
    (hOutput : c.stdout = .closed bytes) :
    t.fault? =
      (t.faultAt? .reply).or (t.faultAt? .edit) := by
  have hTaken : c.delivery ≠ .stuck := by simp [hInput]
  have hLeft :
      t.fault? =
        [Stage.reply, Stage.edit].findSome? t.faultAt? := by
    simp [fault?_of_ended_well hLaunch hTaken hEnding,
      faultAt?_write hLaunch hInput,
      faultAt?_read hLaunch hOutput]
  rw [hLeft]
  cases hReply : t.faultAt? .reply with
  | some e => simp [hReply]
  | none =>
      cases hEdit : t.faultAt? .edit with
      | some e => simp [hReply, hEdit]
      | none => simp [hReply, hEdit]

/-
  A course that is judged a failure is so for its first stage
  with a fault.
-/
theorem fault?_of_judge_error
    {e : Failure}
    (hJudge : c.judge t.limits t.command = .error e) :
    t.fault? = some e := by
  have hCourse := course?_of_launched hLaunch
  have hStarted := faultAt?_launch hLaunch
  unfold Course.judge at hJudge
  split at hJudge
  · next hInput =>
    cases hJudge
    have hHere :
        t.faultAt? .writeTimeout =
          some (.writeTimeout t.limits.write t.command) := by
      simp [faultAt?, hCourse, hInput]
    simp [fault?, Stage.all, hStarted, hHere]
  · next hEnding hInput =>
    cases hJudge
    have hTaken := faultAt?_writeTimeout hLaunch hInput
    have hHere :
        t.faultAt? .exitTimeout =
          some (.exitTimeout t.limits.exit t.command) := by
      simp [faultAt?, hCourse, hEnding]
    simp [fault?, Stage.all, hStarted, hTaken, hHere]
  · next cause hEnding hInput =>
    cases hJudge
    have hTaken := faultAt?_writeTimeout hLaunch hInput
    have hEnded := faultAt?_exitTimeout hLaunch hEnding
    have hHere : t.faultAt? .wait = some (.read cause) := by
      simp [faultAt?, hCourse, hEnding]
    simp [fault?, Stage.all, hStarted, hTaken, hEnded, hHere]
  · next ending hKnown hEnding hInput =>
    have hTaken := faultAt?_writeTimeout hLaunch hInput
    have hEnded := faultAt?_exitTimeout hLaunch hEnding
    have hTold := faultAt?_wait hLaunch hEnding hKnown
    split at hJudge
    · next hNot =>
      cases hJudge
      have hHere :=
        faultAt?_nonzeroExit_of_not hLaunch hEnding hKnown
          hNot
      simp [fault?, Stage.all, hStarted, hTaken, hEnded,
        hTold, hHere]
    · next hWell =>
      rw [Decidable.not_not] at hWell
      have hLeft :=
        fault?_of_ended_well hLaunch hInput (hWell ▸ hEnding)
      split at hJudge
      · next cause hBroken =>
        cases hJudge
        have hHere :
            t.faultAt? .write = some (.write cause) := by
          simp [faultAt?, hCourse, hBroken]
        simp [hLeft, hHere]
      · next words hLost =>
        cases hJudge
        have hHere :
            t.faultAt? .write =
              some (.interrupted (.described words)) := by
          simp [faultAt?, hCourse, hLost]
        simp [hLeft, hHere]
      · next bytes cause hFailed hWhole hThere =>
        cases hJudge
        have hAll :=
          faultAt?_write hLaunch
            (eq_complete_of_ne hInput hWhole hThere)
        have hHere :
            t.faultAt? .read = some (.read cause) := by
          simp [faultAt?, hCourse, hFailed]
        simp [hLeft, hAll, hHere]
      · next words hLost hWhole hThere =>
        cases hJudge
        have hAll :=
          faultAt?_write hLaunch
            (eq_complete_of_ne hInput hWhole hThere)
        have hHere :
            t.faultAt? .read =
              some (.interrupted (.described words)) := by
          simp [faultAt?, hCourse, hLost]
        simp [hLeft, hAll, hHere]
      · next hOpen hWhole hThere =>
        cases hJudge
        have hAll :=
          faultAt?_write hLaunch
            (eq_complete_of_ne hInput hWhole hThere)
        have hHere :
            t.faultAt? .read =
              some
                (.interrupted (.outputLeftOpen t.command)) := by
          simp [faultAt?, hCourse, hOpen]
        simp [hLeft, hAll, hHere]
      · cases hJudge

end

/-
  A course that is not judged a failure took all its input,
  ended well and printed to the end.
-/
theorem course_of_judge_ok
    {limits : Timeouts}
    {command : String}
    {c : Course}
    {outcome : Outcome}
    (hJudge : c.judge limits command = .ok outcome) :
    c.delivery = .complete ∧
      c.ending? = some (.code 0) ∧
        c.stdout = .closed outcome.stdout := by
  unfold Course.judge at hJudge
  split at hJudge
  · cases hJudge
  · cases hJudge
  · cases hJudge
  · next ending hKnown hEnding hInput =>
    split at hJudge
    · cases hJudge
    · next hWell =>
      rw [Decidable.not_not] at hWell
      split at hJudge
      · cases hJudge
      · cases hJudge
      · cases hJudge
      · cases hJudge
      · cases hJudge
      · next bytes hOutput hWhole hThere =>
        cases hJudge
        exact
          ⟨eq_complete_of_ne hInput hWhole hThere,
            hWell ▸ hEnding, hOutput⟩

/- A reply that is not read is so for the first fault. -/
theorem fault?_of_reply_error
    {e : Failure}
    (hReply : t.reply = .error e) :
    t.fault? = some e := by
  unfold reply at hReply
  split at hReply
  · next cause hLaunch =>
    cases hReply
    exact fault?_of_not_launched hLaunch
  · next c hLaunch =>
    unfold Session.replyOf at hReply
    cases hJudge : c.judge t.limits t.command with
    | error e' =>
        rw [hJudge] at hReply
        cases hReply
        exact fault?_of_judge_error hLaunch hJudge
    | ok outcome =>
        rw [hJudge] at hReply
        rcases Attempt.mapError_eq_error_iff.mp hReply with
          ⟨cause, hRead, rfl⟩
        rcases course_of_judge_ok hJudge with
          ⟨hInput, hEnding, hOutput⟩
        have hHere :
            t.faultAt? .reply = some (.reply cause) := by
          simp [faultAt?, read?_of_closed hLaunch hOutput,
            hRead]
        rw [fault?_of_closed hLaunch hInput hEnding hOutput,
          hHere]
        rfl

/- Of three faults at once that of the ending is told. -/
example :
    let c : Course :=
      ⟨.broken .brokenPipe, some (.code 3),
        .closed "oops".toByteArray,
        .closed "bad\n".toByteArray⟩
    let t : Trial :=
      ⟨⟨"int  x;", ⟨3, 5⟩, 2⟩, .replacements, {},
        ⟨"/f", ["-style=file"], []⟩, .ok c⟩
    t.fault? =
        some (.nonzeroExit (some 3) "bad" "/f -style=file") ∧
      t.faultAt? .write = some (.write .brokenPipe) ∧
        t.faultAt? .reply =
          some (.reply (.malformed .noDocument)) := by
  decide +kernel

/-
  A reply that was read is that of a course without a fault;
  only its edits may fail.
-/
theorem exists_of_reply_ok
    {reply : Reply}
    (hReply : t.reply = .ok reply) :
    ∃ c bytes,
      t.launched = .ok c ∧
        c.delivery = .complete ∧
          c.ending? = some (.code 0) ∧
            c.stdout = .closed bytes ∧
              (Reply.read t.protocol bytes).result =
                .ok reply := by
  unfold Trial.reply at hReply
  split at hReply
  · cases hReply
  · next c hLaunch =>
    rcases Attempt.bind_eq_ok_iff.mp hReply with
      ⟨outcome, hJudge, hRead⟩
    rcases course_of_judge_ok hJudge with
      ⟨hInput, hEnding, hOutput⟩
    exact
      ⟨c, outcome.stdout, hLaunch, hInput, hEnding, hOutput,
        Attempt.mapError_eq_ok_iff.mp hRead⟩

/- What is left to fail then are the edits of the reply. -/
theorem fault?_of_reply_ok
    {reply : Reply}
    (hReply : t.reply = .ok reply) :
    t.fault? = t.faultAt? .edit ∧
      t.edited? =
        some
          (Edit.applyReply (Draft.ofDocument t.document)
            reply).2 := by
  rcases exists_of_reply_ok hReply with
    ⟨c, bytes, hLaunch, hInput, hEnding, hOutput, hRead⟩
  have hRead? : t.read? = some (.ok reply) := by
    rw [read?_of_closed hLaunch hOutput, hRead]
  have hNone : t.faultAt? .reply = none := by
    rw [faultAt?, hRead?]
  constructor
  · rw [fault?_of_closed hLaunch hInput hEnding hOutput,
      hNone, Option.none_or]
  · rw [edited?, hRead?]

/- Edits that fail are the fault of a reply that was read. -/
theorem fault?_of_edit_error
    {reply : Reply}
    {cause : EditError}
    (hReply : t.reply = .ok reply)
    (hEdit :
      (Edit.applyReply (Draft.ofDocument t.document)
          reply).2 =
        .error cause) :
    t.fault? = some (.edit cause) := by
  rcases fault?_of_reply_ok hReply with ⟨hFault, hEdited⟩
  rw [hFault, faultAt?, hEdited, hEdit]

/- Edits that are made leave a reply without a fault. -/
theorem fault?_of_edit_ok
    {reply : Reply}
    (hReply : t.reply = .ok reply)
    (hEdit :
      (Edit.applyReply (Draft.ofDocument t.document)
          reply).2 =
        .ok ()) :
    t.fault? = none := by
  rcases fault?_of_reply_ok hReply with ⟨hFault, hEdited⟩
  rw [hFault, faultAt?, hEdited, hEdit]

/- The reply of a trial that succeeds is one that is made. -/
theorem Succeeds.exists_reply
    {d : Document}
    {patch : Patch}
    (h : t.Succeeds d patch) :
    ∃ reply,
      t.reply = .ok reply ∧
        t.document.transact (Edit.applyReply · reply) =
          (d, .ok patch) := by
  cases h with
  | @intro c bytes reply d patch hLaunch hInput hEnding
      hOutput hRead hEdit =>
      refine ⟨reply, ?_, hEdit⟩
      have hJudge :
          c.judge t.limits t.command =
            .ok ⟨some 0, bytes, c.errors⟩ := by
        unfold Course.judge
        rw [hInput, hEnding, hOutput]
        rfl
      unfold Trial.reply Session.replyOf
      rw [hLaunch]
      simp only [hJudge]
      exact Attempt.mapError_eq_ok_iff.mpr hRead

/- A reply that is made is that of a trial that succeeds. -/
theorem succeeds_of_reply_ok
    {d : Document}
    {patch : Patch}
    {reply : Reply}
    (hReply : t.reply = .ok reply)
    (hEdit :
      t.document.transact (Edit.applyReply · reply) =
        (d, .ok patch)) :
    t.Succeeds d patch := by
  rcases exists_of_reply_ok hReply with
    ⟨c, bytes, hLaunch, hInput, hEnding, hOutput, hRead⟩
  exact
    .intro hLaunch hInput hEnding hOutput hRead hEdit

/- A trial that succeeds has no fault. -/
theorem Succeeds.fault?_eq_none
    {d : Document}
    {patch : Patch}
    (h : t.Succeeds d patch) :
    t.fault? = none := by
  rcases h.exists_reply with ⟨reply, hReply, hEdit⟩
  exact
    fault?_of_edit_ok hReply
      (Document.edit_of_transact_ok hEdit)

/- What a trial that succeeds leaves is one document. -/
theorem Succeeds.unique
    {d d' : Document}
    {patch patch' : Patch}
    (h : t.Succeeds d patch)
    (h' : t.Succeeds d' patch') :
    d = d' ∧ patch = patch' := by
  rcases h.exists_reply with ⟨reply, hReply, hEdit⟩
  rcases h'.exists_reply with ⟨reply', hReply', hEdit'⟩
  rw [hReply] at hReply'
  cases hReply'
  rw [hEdit] at hEdit'
  cases hEdit'
  exact ⟨rfl, rfl⟩

end Trial

end Reformat
