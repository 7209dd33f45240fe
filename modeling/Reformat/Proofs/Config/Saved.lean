import Reformat.Config.File
import Reformat.Proofs.Files.Written
import Reformat.Proofs.Session.Format
import Reformat.Proofs.Toml.Lines

/-
  Configurations that are saved and loaded again.

  The text of a configuration is read as the configuration
  itself, whatever stands in its strings.  Loading then takes
  the normal form, on the host that loads.

  Key definitions include:
    * `Config.table`
    * `Config.IsWords`
    * `Config.withDirectories`

  Main statements:
    * `Config.ofTable?_table`
    * `Config.ofText?_toText`
    * `Config.load_of_save`
-/

------------------------------------------------------------
-- Tables
------------------------------------------------------------

namespace Reformat

namespace Config

/- Both timeouts are words. -/
structure IsWords (c : Config) : Prop where
  write : c.writeTimeout < Word.limit
  exit : c.exitTimeout < Word.limit

/- The keys of a configuration, in order, and their values. -/
def table (c : Config) : Toml.Table :=
  [("binary", .string c.binary)] ++
    (c.path?.toList.map fun path =>
      ("path", .string path)) ++
    [("only_changed_regions", .boolean c.onlyChangedRegions),
      ("output", .string (outputName c.output)),
      ("whole_file_offsets", .boolean c.wholeFileOffsets),
      ("write_timeout_ms", .integer c.writeTimeout),
      ("exit_timeout_ms", .integer c.exitTimeout),
      ("extra_args", .array (c.extraArguments.map .string))]

/- No key is given twice. -/
theorem nodup_table (c : Config) :
    (c.table.map Prod.fst).Nodup := by
  unfold table
  cases c.path? with
  | none => simp
  | some path => simp

/- What is written are the entries of the table. -/
theorem entriesWritten_table
    {c : Config}
    (hWords : c.IsWords) :
    Toml.EntriesWritten c.entries c.table := by
  unfold entries table
  apply Toml.EntriesWritten.append
  · apply Toml.EntriesWritten.append
    · exact
        Toml.EntriesWritten.singleton rfl
          (Toml.valueWritten_writeString c.binary)
    · cases c.path? with
      | none => exact Toml.EntriesWritten.nil
      | some path =>
          exact
            Toml.EntriesWritten.singleton rfl
              (Toml.valueWritten_writeString path)
  · apply Toml.EntriesWritten.cons rfl
    · exact Toml.valueWritten_writeBoolean _
    apply Toml.EntriesWritten.cons rfl
    · exact Toml.valueWritten_writeString _
    apply Toml.EntriesWritten.cons rfl
    · exact Toml.valueWritten_writeBoolean _
    apply Toml.EntriesWritten.cons rfl
    · exact Toml.valueWritten_toText hWords.write
    apply Toml.EntriesWritten.cons rfl
    · exact Toml.valueWritten_toText hWords.exit
    exact
      Toml.EntriesWritten.singleton rfl
        (Toml.valueWritten_writeStrings _)

end Config

end Reformat

------------------------------------------------------------
-- Texts
------------------------------------------------------------

namespace Reformat

namespace Config

/- A form of output is known by its name. -/
theorem outputOfName?_outputName (p : Protocol) :
    outputOfName? (outputName p) = some p := by
  cases p with
  | replacements => rfl
  | fullText => rfl

/- A word is read from its value. -/
theorem word?_natCast
    {n : Nat}
    (hLimit : n < Word.limit) :
    word? (.integer n) = some n := by
  have hBounds :
      0 ≤ (n : Int) ∧ (n : Int) < (Word.limit : Int) :=
    ⟨Int.natCast_nonneg n, Int.ofNat_lt.mpr hLimit⟩
  change
    (if 0 ≤ (n : Int) ∧ (n : Int) < (Word.limit : Int) then
        some (n : Int).toNat
      else none) =
      some n
  rw [if_pos hBounds, Int.toNat_natCast]

/- Strings are read from their array. -/
theorem strings?_map (ss : List String) :
    strings? (.array (ss.map .string)) = some ss := by
  change (ss.map Toml.Value.string).mapM string? = some ss
  induction ss with
  | nil => rfl
  | cons s ss ih =>
      rw [List.map_cons, List.mapM_cons, ih]
      rfl

/- A table is read as the configuration it belongs to. -/
theorem ofTable?_table
    {c : Config}
    (hWords : c.IsWords) :
    ofTable? c.table = some c := by
  rcases c with
    ⟨binary, path?, changed, output, offsets, write, exit,
      extra⟩
  have hOutput := outputOfName?_outputName output
  have hWrite := word?_natCast hWords.write
  have hExit := word?_natCast hWords.exit
  have hExtra := strings?_map extra
  unfold ofTable? table
  cases path? with
  | none =>
      simp [field?, List.lookup_cons, string?, boolean?, output?,
        hOutput, hWrite, hExit, hExtra]
  | some path =>
      simp [field?, List.lookup_cons, string?, boolean?, output?,
        hOutput, hWrite, hExit, hExtra]

/- A text is read as the configuration that it was made of. -/
theorem ofText?_toText
    {c : Config}
    (hWords : c.IsWords) :
    ofText? c.toText = some c := by
  have hRead : Toml.read? c.toText = some c.table :=
    Toml.read?_of_written (entriesWritten_table hWords)
      c.nodup_table
  unfold ofText?
  rw [hRead]
  exact ofTable?_table hWords

end Config

end Reformat

------------------------------------------------------------
-- Files
------------------------------------------------------------

namespace Reformat

namespace Config

/- The files of a host with the directories of a path. -/
def withDirectories
    (h : Host)
    (path : String) : Except SystemError Files.Tree :=
  match Path.parent? path with
  | none => .ok h.files
  | some parent => h.files.createDirectories h.cwd parent

/- Saving makes the directories and then writes the text. -/
theorem run_save
    (c : Config)
    (path : String)
    (h : Host) :
    (c.save path).run h =
      match withDirectories h path with
      | .error cause => (.error cause, h)
      | .ok files =>
          let wrote :=
            files.write h.taking h.cwd path
              c.toText.toByteArray
          (wrote.2, { h with files := wrote.1 }) := by
  have hLook : (get : OnHost Host).run h = (h, h) := rfl
  unfold save withDirectories
  rw [OnHost.run_bind, hLook]
  cases Path.parent? path with
  | none => rfl
  | some parent =>
      simp only
      cases h.files.createDirectories h.cwd parent with
      | error cause => rfl
      | ok files => rfl

/- What was saved is the text in its file. -/
theorem wrote_of_save
    {c : Config}
    {path : String}
    {h h' : Host}
    (hSave : (c.save path).run h = (.ok (), h')) :
    h'.cwd = h.cwd ∧
      ∃ files : Files.Tree,
        files.Wrote h.cwd path c.toText.toByteArray
          h'.files := by
  rw [run_save] at hSave
  cases hMade : withDirectories h path with
  | error cause =>
      rw [hMade] at hSave
      cases hSave
  | ok files =>
      rcases hWrite :
          files.write h.taking h.cwd path
            c.toText.toByteArray with
        ⟨written, result⟩
      simp only [hMade, hWrite] at hSave
      cases hSave
      exact ⟨rfl, files, Files.Tree.wrote_of_write hWrite⟩

/-
  What was saved is loaded in normal form.  The host that loads
  may be another one with the same files: the variables in the
  path are its own, and nothing but the name and the path is
  another than what was saved.
-/
theorem load_of_save
    {c : Config}
    (hWords : c.IsWords)
    {path : String}
    {h h' : Host}
    (hSave : (c.save path).run h = (.ok (), h'))
    {later : Host}
    (hFiles : later.files = h'.files)
    (hCwd : later.cwd = h'.cwd) :
    load later path = .ok (some (c.normalized later)) ∧
      { c.normalized later with
          binary := c.binary, path? := c.path? } =
        c := by
  rcases wrote_of_save hSave with ⟨hSame, files, hWrote⟩
  have hBytes := hWrote.read_eq
  have hThere : later.files.exists? later.cwd path = true := by
    rw [hFiles, hCwd, hSame]
    exact Files.Tree.exists?_of_read hBytes
  have hRead : readText later path = .ok c.toText := by
    unfold readText
    rw [hFiles, hCwd, hSame, hBytes]
    simp only [Text.Utf8.decode_toByteArray]
    rfl
  refine ⟨?_, rfl⟩
  unfold load
  rw [if_pos hThere, hRead]
  simp only [ofText?_toText hWords]

/- A file with a plain name is saved where nothing is. -/
theorem run_save_config (c : Config) :
    (c.save "config.toml").run {} =
      (.ok (),
        { files :=
            Files.Tree.set {} ["config.toml"]
              (.file c.toText.toByteArray false) }) := by
  have hParent : Path.parent? "config.toml" = some "" := by
    decide +kernel
  have hSteps :
      Files.steps "config.toml" = ["config.toml"] := by
    decide +kernel
  have hSize : "config.toml".utf8ByteSize = 11 := by
    decide +kernel
  have hResolve :
      Files.Tree.resolve {} [] true "config.toml" =
        .ok ["config.toml"] := by
    simp [Files.Tree.resolve, Files.Tree.walk,
      Files.Tree.get?, Files.linkLimit, Files.nameLimit,
      Files.pathLimit, hSteps, hSize]
  have hMade : withDirectories {} "config.toml" = .ok {} := by
    unfold withDirectories
    rw [hParent]
    rfl
  have hPlace :
      Files.Tree.place {} [] "config.toml" =
        .ok (["config.toml"], false) := by
    have hSlash : Path.endsInSlash "config.toml" = false := by
      decide +kernel
    rw [Files.Tree.place_of_resolve hSlash hResolve]
    rfl
  rw [run_save, hMade]
  simp only [Files.Tree.write, hPlace]
  rfl

/-
  Strings for each of the forms, quotes at their ends and the
  largest word, loaded where the variable in the path is set.
-/
theorem load_of_save_sample :
    let c : Config :=
      { binary := "a'b\"c\\d"
        path? := some "$HOME/\"bin\""
        output := .fullText
        writeTimeout := 18446744073709551615
        extraArguments :=
          ["", "'''\"\"\"", "\n\"\"", "\x00\r\n\"\"\"\"\t→"] }
    let saved := (c.save "config.toml").run {}
    let later :=
      { saved.2 with environment := [("HOME", "/h/u")] }
    c.IsWords ∧ saved.1 = .ok () ∧
      load later "config.toml" =
        .ok (some { c with path? := some "/h/u/\"bin\"" }) := by
  intro c saved later
  have hWords : c.IsWords := ⟨by decide, by decide⟩
  have hSaved : saved.1 = .ok () := by
    simp only [saved, run_save_config]
  have hSave :
      (c.save "config.toml").run {} = (.ok (), saved.2) :=
    Prod.ext hSaved rfl
  have hFiles : later.files = saved.2.files := rfl
  have hCwd : later.cwd = saved.2.cwd := rfl
  have hLoad := (load_of_save hWords hSave hFiles hCwd).1
  have hNormal :
      c.normalized later =
        { c with path? := some "/h/u/\"bin\"" } := by
    decide +kernel
  rw [hNormal] at hLoad
  exact ⟨hWords, hSaved, hLoad⟩

end Config

end Reformat
