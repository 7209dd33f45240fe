import Reformat.Cli.Run

/-
  When the normal form of a configuration is its own normal
  form.

  A path is expanded each time that the normal form is taken.
  An escaped dollar sign is a dollar sign after the first time
  and begins a variable the second time, so only a path that
  is settled stays as it is.

  Key definitions include:
    * `Config.IsSettled`

  Main statements:
    * `Config.normalized_eq_self_iff`
    * `Config.isSettled_of_plain`
    * `Config.isSettled_normalized_of_unset`
    * `Config.normalized_normalized`
    * `Config.normalized_normalized_ne`
-/

------------------------------------------------------------
-- Settled Paths
------------------------------------------------------------

namespace Reformat

namespace Config

/- The path, if any, is not blank and stands for itself. -/
def IsSettled
    (c : Config)
    (h : Host) : Prop :=
  ∀ path,
    c.path? = some path →
      Text.allBlank path = false ∧ expandPath h path = path

/- The normal form keeps a path just when it is settled. -/
theorem path_normalized_eq_iff
    {c : Config}
    {h : Host} :
    (c.normalized h).path? = c.path? ↔ c.IsSettled h := by
  unfold IsSettled normalized
  cases c.path? with
  | none => simp
  | some path =>
      simp only [Option.bind_some, Option.some.injEq,
        forall_eq']
      cases hBlank : Text.allBlank path with
      | true => simp [unlessBlank_of_blank hBlank]
      | false => simp [unlessBlank_of_not_blank hBlank]

/- A path without variables and a home directory is settled. -/
theorem isSettled_of_plain
    {c : Config}
    {h : Host}
    (hPlain :
      ∀ path,
        c.path? = some path →
          Text.allBlank path = false ∧
            '$' ∉ path.toList ∧
              Template.startsHome path.toList = false) :
    c.IsSettled h := by
  intro path hPath
  rcases hPlain path hPath with ⟨hText, hDollar, hHome⟩
  refine ⟨hText, ?_⟩
  unfold expandPath
  rw [Template.expand?_of_plain _ _ path hDollar hHome]
  rfl

/- A path with a variable that is not set stays settled. -/
theorem isSettled_normalized_of_unset
    {c : Config}
    {h : Host}
    (hUnset :
      ∀ path,
        c.path? = some path →
          Template.expand? h.setting? h.home? path = none) :
    (c.normalized h).IsSettled h := by
  intro path hPath
  rcases Option.map_eq_some_iff.mp hPath with
    ⟨kept, hKept, hExpanded⟩
  rcases Option.bind_eq_some_iff.mp hKept with
    ⟨written, hWritten, hKept⟩
  have hSame : expandPath h written = written := by
    unfold expandPath
    rw [hUnset written hWritten]
    rfl
  cases hBlank : Text.allBlank written with
  | true =>
      rw [unlessBlank_of_blank hBlank] at hKept
      cases hKept
  | false =>
      rw [unlessBlank_of_not_blank hBlank] at hKept
      cases hKept
      rw [← hExpanded, hSame]
      exact ⟨hBlank, hSame⟩

end Config

end Reformat

------------------------------------------------------------
-- Normal Forms
------------------------------------------------------------

namespace Reformat

namespace Config

/- The name in a normal form is not blank. -/
theorem allBlank_binary_normalized
    (c : Config)
    (h : Host) :
    Text.allBlank (c.normalized h).binary = false := by
  change
    Text.allBlank
        ((unlessBlank c.binary).getD defaultBinary) =
      false
  cases hBlank : Text.allBlank c.binary with
  | true =>
      rw [unlessBlank_of_blank hBlank]
      decide
  | false =>
      rw [unlessBlank_of_not_blank hBlank]
      exact hBlank

/- With a name, only the path is another in the normal form. -/
theorem normalized_eq_with_path
    {c : Config}
    (h : Host)
    (hName : Text.allBlank c.binary = false) :
    c.normalized h =
      { c with path? := (c.normalized h).path? } := by
  unfold normalized
  rw [unlessBlank_of_not_blank hName]
  rfl

/- With a name, a settled path makes a normal form. -/
theorem normalized_eq_self_iff
    {c : Config}
    {h : Host}
    (hName : Text.allBlank c.binary = false) :
    c.normalized h = c ↔ c.IsSettled h := by
  rw [← path_normalized_eq_iff]
  constructor
  · intro hSame
    rw [hSame]
  · intro hPath
    rw [normalized_eq_with_path h hName, hPath]

/- Without a name or a path among them, the options take the
  normal form of the file's configuration. -/
theorem config_of_fileConfig
    {o : Options}
    {h : Host}
    {c : Config}
    (hBinary : o.binary? = none)
    (hPath : o.path? = none)
    (hFile : o.fileConfig h = .ok c) :
    o.config h = .ok (c.normalized h) := by
  unfold Options.config
  rw [hFile, hBinary, hPath]
  rfl

/-
  Taking the normal form again changes nothing but perhaps the
  path, and it changes the path just when the path is blank
  after its expansion, or when it then stands for another one.
  A path that was expanded to one without dollar signs and a
  tilde in front stays, and so does one that could not be
  expanded.  A run that sets neither name nor path uses what
  was loaded under the same condition.
-/
theorem normalized_normalized
    (c : Config)
    (h : Host) :
    let n := c.normalized h
    n.normalized h =
        { n with path? := (n.normalized h).path? } ∧
      (n.normalized h = n ↔ n.IsSettled h) ∧
      ((∀ path,
          n.path? = some path →
            Text.allBlank path = false ∧
              '$' ∉ path.toList ∧
                Template.startsHome path.toList = false) →
        n.normalized h = n) ∧
      ((∀ path,
          c.path? = some path →
            Template.expand? h.setting? h.home? path =
              none) →
        n.normalized h = n) ∧
      ∀ o : Options,
        o.binary? = none →
          o.path? = none →
            o.fileConfig h = .ok n →
              (o.config h = .ok n ↔ n.IsSettled h) := by
  intro n
  have hName : Text.allBlank n.binary = false :=
    allBlank_binary_normalized c h
  have hSettled : n.normalized h = n ↔ n.IsSettled h :=
    normalized_eq_self_iff hName
  refine
    ⟨normalized_eq_with_path h hName, hSettled, ?_, ?_, ?_⟩
  · intro hPlain
    exact hSettled.mpr (isSettled_of_plain hPlain)
  · intro hUnset
    exact hSettled.mpr (isSettled_normalized_of_unset hUnset)
  · intro o hBinary hPath hFile
    rw [config_of_fileConfig hBinary hPath hFile,
      Except.ok.injEq]
    exact hSettled

/-
  An escaped dollar sign in front of a name that is set: the
  second normal form has the value of the variable.
-/
theorem normalized_normalized_ne :
    let h : Host := { environment := [("HOME", "/h/u")] }
    let c : Config := { path? := some "$$HOME/bin" }
    (c.normalized h).path? = some "$HOME/bin" ∧
      ((c.normalized h).normalized h).path? =
          some "/h/u/bin" ∧
        (c.normalized h).normalized h ≠ c.normalized h := by
  intro h c
  have hOnce : (c.normalized h).path? = some "$HOME/bin" := by
    decide +kernel
  have hTwice :
      ((c.normalized h).normalized h).path? =
        some "/h/u/bin" := by
    decide +kernel
  refine ⟨hOnce, hTwice, ?_⟩
  intro hSame
  rw [hSame, hOnce] at hTwice
  exact absurd hTwice (by decide)

end Config

end Reformat
