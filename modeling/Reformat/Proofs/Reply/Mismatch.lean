import Reformat.Proofs.Json.Suffix
import Reformat.Proofs.Reply.Edits
import Reformat.Proofs.Session.Format

/-
  Output in another form than the one that was asked for.

  The first character that is not blank tells the two forms
  apart: a replacement document begins with an angle bracket,
  a header line with a brace or a square bracket.  So no output
  is read under both protocols, whatever stands behind its
  beginning, and one that is read under the other protocol is
  never edited with.

  Key definitions include:
    * `Text.firstVisible?`

  Main statements:
    * `Reply.firstVisible?_of_readEdits`
    * `Reply.firstVisible?_of_readFullText`
    * `Reply.protocol_eq_of_read`
    * `Session.formatDocument_of_other_protocol`
-/

------------------------------------------------------------
-- First Visible Characters
------------------------------------------------------------

namespace Reformat

namespace Text

/- The first character that is not blank. -/
def firstVisible? (cs : List Char) : Option Char :=
  (dropBlanks cs).head?

/- Blanks in front do not count. -/
theorem firstVisible?_append
    {run : List Char}
    (hRun : run.all isBlank = true)
    (cs : List Char) :
    firstVisible? (run ++ cs) = firstVisible? cs := by
  unfold firstVisible? dropBlanks
  rw [List.dropWhile_append_of_pos (List.all_eq_true.mp hRun)]

/- A character that is not blank is visible. -/
theorem firstVisible?_cons
    {c : Char}
    (hVisible : isBlank c = false)
    (cs : List Char) :
    firstVisible? (c :: cs) = some c := by
  have hNot : ¬ isBlank c = true := by
    rw [hVisible]
    exact Bool.false_ne_true
  unfold firstVisible? dropBlanks
  rw [List.dropWhile_cons_of_neg hNot, List.head?_cons]

/- What is visible at the front of a text is so in the text. -/
theorem firstVisible?_of_prefix
    {front cs : List Char}
    {c : Char}
    (hPrefix : front <+: cs)
    (hFront : firstVisible? front = some c) :
    firstVisible? cs = some c := by
  rcases hPrefix with ⟨rest, rfl⟩
  rcases List.head?_eq_some_iff.mp hFront with ⟨more, hMore⟩
  have hVisible : isBlank c = false :=
    isBlank_head_dropBlanks hMore
  have hText :
      front ++ rest =
        front.takeWhile isBlank ++ c :: (more ++ rest) := by
    conv =>
      lhs
      rw [← takeWhile_append_dropBlanks front, hMore]
    rw [List.append_assoc, List.cons_append]
  rw [hText, firstVisible?_append List.all_takeWhile,
    firstVisible?_cons hVisible]

end Text

end Reformat

------------------------------------------------------------
-- Beginnings Of Replacement Documents
------------------------------------------------------------

namespace Reformat

namespace Reply

/- A document begins with its declaration or its root tag. -/
theorem DocumentWritten.firstVisible?_eq
    {as : List Markup.Attribute}
    {cursor : Nat}
    {rs : List Replacement}
    {text : List Char}
    (h : DocumentWritten as cursor rs text) :
    Text.firstVisible? text = some '<' := by
  have hTag : Text.isBlank '<' = false := rfl
  cases h with
  | intro hBefore hDeclaration hWord hList hBody hAfter =>
      rw [Text.firstVisible?_append hBefore]
      cases hDeclaration with
      | none => exact Text.firstVisible?_cons hTag _
      | some hInside hGap =>
          exact Text.firstVisible?_cons hTag _

/- And so does all that is read as edits. -/
theorem firstVisible?_of_readEdits
    {text : List Char}
    {reply : Reply}
    (h : (readEdits text).result = .ok reply) :
    Text.firstVisible? text = some '<' := by
  rcases written_of_readEdits h with ⟨_, _, _, -, hWritten⟩
  exact hWritten.firstVisible?_eq

end Reply

end Reformat

------------------------------------------------------------
-- Beginnings Of Header Lines
------------------------------------------------------------

namespace Reformat

namespace Json

/- All that JSON takes for space is blank. -/
theorem isBlank_of_isSpace
    {c : Char}
    (h : isSpace c = true) :
    Text.isBlank c = true := by
  simp only [isSpace, Bool.or_eq_true, decide_eq_true_eq]
    at h
  rcases h with ((rfl | rfl) | rfl) | rfl <;> rfl

/- Skipping space does not change what is visible. -/
theorem firstVisible?_skipSpace (cs : List Char) :
    Text.firstVisible? (skipSpace cs) =
      Text.firstVisible? cs := by
  have hSpace :
      (cs.takeWhile isSpace).all Text.isBlank = true := by
    apply List.all_eq_true.mpr
    intro c hc
    exact
      isBlank_of_isSpace (Text.forall_mem_takeWhile _ cs c hc)
  have hText : cs.takeWhile isSpace ++ skipSpace cs = cs :=
    List.takeWhile_append_dropWhile
  conv =>
    rhs
    rw [← hText]
  rw [Text.firstVisible?_append hSpace]

/- A record is read from a list or from an object. -/
theorem Record.firstVisible?_of_read
    {r : Record}
    {text : List Char}
    {values : List Scalar}
    (h : r.read text = .ok values) :
    Text.firstVisible? text = some '[' ∨
      Text.firstVisible? text = some '{' := by
  rw [← firstVisible?_skipSpace]
  unfold Record.read at h
  split at h
  · cases h
  · next hList =>
    left
    rw [hList]
    exact Text.firstVisible?_cons rfl _
  · next hObject =>
    right
    rw [hObject]
    exact Text.firstVisible?_cons rfl _
  · exact absurd h mismatchAt_ne_ok

end Json

namespace Reply

/- A header line is the front of the text. -/
theorem headerLine_prefix (text : List Char) :
    headerLine (Text.stretch '\n' text).1 <+: text := by
  have hLine :
      headerLine (Text.stretch '\n' text).1 <+:
        (Text.stretch '\n' text).1 := by
    unfold headerLine
    rw [← List.reverse_suffix, List.reverse_reverse]
    exact List.dropWhile_suffix _
  exact hLine.trans ⟨_, Text.stretch_append '\n' text⟩

/- A text with a header begins with the header's bracket. -/
theorem firstVisible?_of_readFullText
    {text : List Char}
    {reply : Reply}
    (h : (readFullText text).result = .ok reply) :
    Text.firstVisible? text = some '[' ∨
      Text.firstVisible? text = some '{' := by
  have hFront := headerLine_prefix text
  unfold readFullText at h
  simp only at h
  split at h
  · cases h
  · next header hHeader =>
    unfold Header.read at hHeader
    rcases Attempt.bind_eq_ok_iff.mp hHeader with
      ⟨values, hRecord, -⟩
    rcases Json.Record.firstVisible?_of_read hRecord with
      hList | hObject
    · exact
        .inl (Text.firstVisible?_of_prefix hFront hList)
    · exact
        .inr (Text.firstVisible?_of_prefix hFront hObject)

end Reply

end Reformat

------------------------------------------------------------
-- One Protocol For Each Output
------------------------------------------------------------

namespace Reformat

namespace Reply

/- What is visible first in an output that is read. -/
def opensWith : Protocol → List Char
  | .replacements => ['<']
  | .fullText => ['[', '{']

/- An output that is read is a text that opens as it should. -/
theorem exists_firstVisible?_of_read
    {p : Protocol}
    {output : ByteArray}
    {reply : Reply}
    (h : (read p output).result = .ok reply) :
    ∃ s c,
      Text.Utf8.decode output = .ok s ∧
        Text.firstVisible? s.toList = some c ∧
          c ∈ opensWith p := by
  unfold read at h
  cases hText : Text.Utf8.decode output with
  | error fault =>
      rw [hText] at h
      cases h
  | ok s =>
      rw [hText] at h
      cases p with
      | replacements =>
          have hOpens := firstVisible?_of_readEdits h
          exact ⟨s, '<', rfl, hOpens, List.mem_singleton_self _⟩
      | fullText =>
          rcases firstVisible?_of_readFullText h with
            hList | hObject
          · exact ⟨s, '[', rfl, hList, by decide⟩
          · exact ⟨s, '{', rfl, hObject, by decide⟩

/- No character opens an output of both forms. -/
theorem eq_of_mem_opensWith
    {p q : Protocol}
    {c : Char}
    (hp : c ∈ opensWith p)
    (hq : c ∈ opensWith q) :
    p = q := by
  cases p with
  | replacements =>
      cases q with
      | replacements => rfl
      | fullText =>
          rw [List.mem_singleton.mp hp] at hq
          exact absurd hq (by decide)
  | fullText =>
      cases q with
      | fullText => rfl
      | replacements =>
          rw [List.mem_singleton.mp hq] at hp
          exact absurd hp (by decide)

/- An output is read under one protocol at most. -/
theorem protocol_eq_of_read
    {p q : Protocol}
    {output : ByteArray}
    {reply reply' : Reply}
    (h : (read p output).result = .ok reply)
    (h' : (read q output).result = .ok reply') :
    p = q := by
  rcases exists_firstVisible?_of_read h with
    ⟨s, c, hText, hOpens, hMem⟩
  rcases exists_firstVisible?_of_read h' with
    ⟨s', c', hText', hOpens', hMem'⟩
  have hSame : s = s' := by
    rw [hText] at hText'
    exact Except.ok.inj hText'
  have hFirst : c = c' := by
    rw [hSame, hOpens'] at hOpens
    exact (Option.some.inj hOpens).symm
  rw [hFirst] at hMem
  exact eq_of_mem_opensWith hMem hMem'

end Reply

end Reformat

------------------------------------------------------------
-- Sessions That Ask For The Other Form
------------------------------------------------------------

namespace Reformat

namespace Session

/-
  A formatter that printed its output to the end, in a form
  that is not read under the session's protocol: the document
  is left as it is.  Unless the run itself went wrong before,
  what is told is what is wrong with the reply.
-/
theorem formatDocument_of_reply_error
    {s : Session}
    {mode : Mode}
    {d : Document}
    {path : String}
    {changes : OnHost Changes}
    {h h' : Host}
    {r : Request}
    {c : Course}
    {output : ByteArray}
    {cause : ReplyError}
    (hPrepare :
      (s.prepare mode (d.view s.selector path)
          changes).run h =
        (some r, h'))
    (hLaunch : (s.trial d r h').launched = .ok c)
    (hOutput : c.stdout = .closed output)
    (hRead :
      (Reply.read s.dialect.protocol output).result =
        .error cause) :
    ∃ e,
      ((s.formatDocument mode d path changes).run h).1 =
          (d, .error e) ∧
        (c.delivery = .complete →
          c.ending? = some (.code 0) → e = .reply cause) := by
  let t := s.trial d r h'
  have hReply : t.faultAt? .reply = some (.reply cause) := by
    have hCause : t.read? = some (.error cause) :=
      (Trial.read?_of_closed hLaunch hOutput).trans
        (congrArg some hRead)
    rw [Trial.faultAt?, hCause]
  rcases formatDocument_of_some hPrepare with
    ⟨e, hFault, hDone⟩ | ⟨d', patch, hSucceeds, -⟩
  · refine ⟨e, hDone, ?_⟩
    intro hInput hEnding
    rw [Trial.fault?_of_closed hLaunch hInput hEnding hOutput,
      hReply, Option.some_or] at hFault
    exact (Option.some.inj hFault).symm
  · have hNone := hSucceeds.fault?_eq_none
    have hAll :=
      List.findSome?_eq_none_iff.mp hNone .reply (by decide)
    rw [hReply] at hAll
    cases hAll

/-
  An output that is read under one protocol is a faulty reply
  under any other.  A session that asked for the other form
  ends in that fault, or in one that came before, and never in
  an edit.
-/
theorem formatDocument_of_other_protocol
    {p q : Protocol}
    {output : ByteArray}
    {reply : Reply}
    (hOther : p ≠ q)
    (hRead : (Reply.read p output).result = .ok reply) :
    ∃ cause,
      (Reply.read q output).result = .error cause ∧
        ∀ (s : Session) (mode : Mode) (d : Document)
          (path : String) (changes : OnHost Changes)
          (h h' : Host) (r : Request) (c : Course),
          s.dialect.protocol = q →
            (s.prepare mode (d.view s.selector path)
                changes).run h =
              (some r, h') →
            (s.trial d r h').launched = .ok c →
            c.stdout = .closed output →
              ∃ e,
                ((s.formatDocument mode d path
                      changes).run h).1 =
                    (d, .error e) ∧
                  (c.delivery = .complete →
                    c.ending? = some (.code 0) →
                      e = .reply cause) := by
  cases hResult : (Reply.read q output).result with
  | ok reply' =>
      exact
        absurd (Reply.protocol_eq_of_read hRead hResult)
          hOther
  | error cause =>
      refine ⟨cause, rfl, ?_⟩
      intro s mode d path changes h h' r c hAsked hPrepare
        hLaunch hOutput
      rw [← hAsked] at hResult
      exact
        formatDocument_of_reply_error hPrepare hLaunch
          hOutput hResult

/-
  A header in the form of a list, with a whole replacement
  document as the text behind it.
-/
theorem formatDocument_of_other_protocol_sample :
    let text :=
      "<replacements><cursor>0</cursor></replacements>\n"
    let output := ("\t[5, true]\r\n" ++ text).toByteArray
    let reply := Reply.fullText 5 text
    Protocol.fullText ≠ .replacements ∧
      (Reply.read .fullText output).result = .ok reply ∧
      ∃ cause,
        (Reply.read .replacements output).result =
            .error cause ∧
          ∀ (s : Session) (mode : Mode) (d : Document)
            (path : String) (changes : OnHost Changes)
            (h h' : Host) (r : Request) (c : Course),
            s.dialect.protocol = .replacements →
              (s.prepare mode (d.view s.selector path)
                  changes).run h =
                (some r, h') →
              (s.trial d r h').launched = .ok c →
              c.delivery = .complete →
              c.ending? = some (.code 0) →
              c.stdout = .closed output →
                ((s.formatDocument mode d path
                      changes).run h).1 =
                  (d, .error (.reply cause)) := by
  intro text output reply
  have hOther : Protocol.fullText ≠ .replacements := by decide
  have hRead :
      (Reply.read .fullText output).result = .ok reply := by
    unfold Reply.read
    rw [Text.Utf8.decode_toByteArray]
    decide +kernel
  rcases formatDocument_of_other_protocol hOther hRead with
    ⟨cause, hResult, hSession⟩
  refine ⟨hOther, hRead, cause, hResult, ?_⟩
  intro s mode d path changes h h' r c hAsked hPrepare
    hLaunch hInput hEnding hOutput
  rcases hSession s mode d path changes h h' r c hAsked
      hPrepare hLaunch hOutput with
    ⟨e, hDone, hReply⟩
  rw [hReply hInput hEnding] at hDone
  exact hDone

end Session

end Reformat
