import Reformat.Proofs.Host.Files

/-
  Which program is found for a name.

  A name with a slash is a path and is used as it is.  Any
  other name stands for a file in the first of the directories
  that has a program by it, or by it with the usual ending;
  they come from the path that is set for it, the process, the
  login shell and the usual places, in this order.

  Key definitions include:
    * `Path.Listed`
    * `Locator.HasProgram`
    * `Locator.StandsFor`

  Main statements:
    * `Path.listed_iff`
    * `Locator.standsFor_iff`
    * `Locator.run_locate`
    * `Locator.locate_first`
-/

------------------------------------------------------------
-- Lists Of Directories
------------------------------------------------------------

namespace Reformat

namespace Path

/- The directories between the colons of a list; a list that
  is not set has none. -/
inductive Listed : Option String → List String → Prop
  | unset : Listed none []
  | last
      (directory : String)
      (hDirectory : ':' ∉ directory.toList) :
      Listed (some directory) [directory]
  | more
      (directory list : String)
      (directories : List String)
      (hDirectory : ':' ∉ directory.toList)
      (hRest : Listed (some list) directories) :
      Listed (some (directory ++ ":" ++ list))
        (directory :: directories)

/- A directory without a colon is the only one. -/
theorem splitList_of_not_mem
    {directory : String}
    (hDirectory : ':' ∉ directory.toList) :
    splitList directory = [directory] := by
  simp [splitList,
    Text.splitOn_of_not_mem ':' _ hDirectory]

/- A colon ends the first directory. -/
theorem splitList_append
    {directory : String}
    (hDirectory : ':' ∉ directory.toList)
    (list : String) :
    splitList (directory ++ ":" ++ list) =
      directory :: splitList list := by
  have hText :
      (directory ++ ":" ++ list).toList =
        directory.toList ++ ':' :: list.toList := by
    simp
  simp [splitList, hText,
    Text.splitOn_append_cons ':' _ _ hDirectory]

/- A list is read into the directories between its colons. -/
theorem listed_splitList (list : String) :
    Listed (some list) (splitList list) := by
  by_cases hColon : ':' ∈ list.toList
  · rcases List.eq_append_cons_of_mem hColon with
      ⟨front, back, hText, hFront⟩
    have hList :
        list =
          String.ofList front ++ ":" ++
            String.ofList back := by
      apply String.toList_inj.mp
      simp [hText]
    have hDirectory :
        ':' ∉ (String.ofList front).toList := by
      simpa using hFront
    have hShorter : back.length < list.toList.length := by
      rw [hText, List.length_append, List.length_cons]
      omega
    have hRest := listed_splitList (String.ofList back)
    rw [hList, splitList_append hDirectory]
    exact Listed.more _ _ _ hDirectory hRest
  · rw [splitList_of_not_mem hColon]
    exact Listed.last _ hColon
termination_by list.toList.length
decreasing_by simpa using hShorter

/- The directories of a list are those that are read. -/
theorem listed_iff
    (list? : Option String)
    (directories : List String) :
    Listed list? directories ↔
      directories = (list?.map splitList).getD [] := by
  constructor
  · intro hListed
    induction hListed with
    | unset => rfl
    | last directory hDirectory =>
        exact (splitList_of_not_mem hDirectory).symm
    | more directory list directories hDirectory _ ih =>
        rw [ih]
        exact (splitList_append hDirectory list).symm
  · rintro rfl
    cases list? with
    | none => exact Listed.unset
    | some list => exact listed_splitList list

end Path

end Reformat

------------------------------------------------------------
-- First Directories
------------------------------------------------------------

namespace Reformat

namespace Locator

/- A directory has a program by a name, or by the name with
  the usual ending. -/
def HasProgram
    (runs : String → Bool)
    (name directory : String) : Prop :=
  runs (Path.join directory name) = true ∨
    runs (Path.join directory (name ++ ".exe")) = true

/-
  What a name stands for in some directories: the program in
  the first of them that has one, by the name alone if there
  is one, or else the bare name.
-/
inductive StandsFor
    (runs : String → Bool)
    (name : String) :
    List String → String → Prop
  | plain
      (front : List String)
      (directory : String)
      (back : List String)
      (hFront : ∀ d ∈ front, ¬ HasProgram runs name d)
      (hRuns : runs (Path.join directory name) = true) :
      StandsFor runs name (front ++ directory :: back)
        (Path.join directory name)
  | ending
      (front : List String)
      (directory : String)
      (back : List String)
      (hFront : ∀ d ∈ front, ¬ HasProgram runs name d)
      (hPlain : runs (Path.join directory name) = false)
      (hRuns :
        runs (Path.join directory (name ++ ".exe")) = true) :
      StandsFor runs name (front ++ directory :: back)
        (Path.join directory (name ++ ".exe"))
  | bare
      (directories : List String)
      (hNone : ∀ d ∈ directories, ¬ HasProgram runs name d) :
      StandsFor runs name directories name

variable {runs : String → Bool}
variable {name : String}

/- A directory without a program by a name has none of the
  files that the name may stand for. -/
theorem find?_candidates_eq_none_iff (directory : String) :
    (candidates directory name).find? runs = none ↔
      ¬ HasProgram runs name directory := by
  simp [candidates, HasProgram]

/- A program by the name alone goes before one with the
  ending. -/
theorem find?_candidates_eq_some_iff
    (directory command : String) :
    (candidates directory name).find? runs = some command ↔
      (runs (Path.join directory name) = true ∧
          Path.join directory name = command) ∨
        (runs (Path.join directory name) = false ∧
          runs (Path.join directory (name ++ ".exe")) = true ∧
            Path.join directory (name ++ ".exe") =
              command) := by
  unfold candidates
  rw [List.find?_cons, List.find?_singleton]
  cases runs (Path.join directory name) with
  | true => simp
  | false => simp

/- Directories are searched one after the other. -/
theorem findIn?_eq_findSome? (directories : List String) :
    findIn? runs name directories =
      directories.findSome? fun d =>
        (candidates d name).find? runs :=
  List.find?_flatMap

/- A program in the first directory that has one is found. -/
theorem findIn?_of_first
    {front : List String}
    {directory command : String}
    (hFront : ∀ d ∈ front, ¬ HasProgram runs name d)
    (hCommand :
      (candidates directory name).find? runs = some command)
    (back : List String) :
    findIn? runs name (front ++ directory :: back) =
      some command := by
  rw [findIn?_eq_findSome?]
  apply List.findSome?_eq_some_iff.mpr
  refine ⟨front, directory, back, rfl, hCommand, ?_⟩
  intro d hd
  exact (find?_candidates_eq_none_iff d).mpr (hFront d hd)

/- What is found, or the name, is what the name stands for. -/
theorem standsFor_iff
    (directories : List String)
    (command : String) :
    StandsFor runs name directories command ↔
      command =
        (findIn? runs name directories).getD name := by
  constructor
  · intro hStands
    cases hStands with
    | plain front directory back hFront hRuns =>
        have hCommand :=
          (find?_candidates_eq_some_iff directory _).mpr
            (Or.inl ⟨hRuns, rfl⟩)
        rw [findIn?_of_first hFront hCommand]
        rfl
    | ending front directory back hFront hPlain hRuns =>
        have hCommand :=
          (find?_candidates_eq_some_iff directory _).mpr
            (Or.inr ⟨hPlain, hRuns, rfl⟩)
        rw [findIn?_of_first hFront hCommand]
        rfl
    | bare _ hNone =>
        have hNotFound :
            findIn? runs name directories = none := by
          rw [findIn?_eq_findSome?]
          apply List.findSome?_eq_none_iff.mpr
          intro d hd
          exact
            (find?_candidates_eq_none_iff d).mpr (hNone d hd)
        rw [hNotFound]
        rfl
  · rintro rfl
    cases hFound : findIn? runs name directories with
    | none =>
        rw [findIn?_eq_findSome?] at hFound
        apply StandsFor.bare
        intro d hd
        apply (find?_candidates_eq_none_iff d).mp
        exact List.findSome?_eq_none_iff.mp hFound d hd
    | some command =>
        rw [findIn?_eq_findSome?] at hFound
        rcases List.findSome?_eq_some_iff.mp hFound with
          ⟨front, directory, back, rfl, hCommand, hNone⟩
        have hFront :
            ∀ d ∈ front, ¬ HasProgram runs name d :=
          fun d hd =>
            (find?_candidates_eq_none_iff d).mp (hNone d hd)
        rw [Option.getD_some]
        rcases
            (find?_candidates_eq_some_iff directory _).mp
              hCommand
          with ⟨hRuns, rfl⟩ | ⟨hPlain, hRuns, rfl⟩
        · exact StandsFor.plain _ _ _ hFront hRuns
        · exact StandsFor.ending _ _ _ hFront hPlain hRuns

end Locator

end Reformat

------------------------------------------------------------
-- Located Programs
------------------------------------------------------------

namespace Reformat

namespace Locator

/- The login shell is asked where that is wanted and no path is
  set. -/
theorem run_loginPath
    (l : Locator)
    (h : Host) :
    l.loginPath.run h =
      if l.asksLoginShell = true ∧ l.path? = none then
        LoginShell.path.run h
      else
        (none, h) := by
  unfold loginPath
  cases l.asksLoginShell <;> cases l.path? <;> rfl

/- A program is looked for on the host as it was before the
  login shell was asked. -/
theorem run_locate
    (l : Locator)
    (h : Host) :
    let shell := l.loginPath.run h
    let found? :=
      l.find? (h.files.isExecutable h.cwd)
        (h.setting? "PATH") shell.1
    l.locate.run h =
      (⟨found?.getD l.binary,
        ((l.path?.or shell.1).map fun path =>
          ("PATH", path)).toList⟩,
        shell.2) := by
  intro shell found?
  have hKeeps := l.keepsSetup_loginPath
  rcases hKeeps.keepsFiles h with ⟨hFiles, hCwd⟩
  have hSetting := hKeeps.setting? h "PATH"
  simp only [found?, shell]
  rw [← hFiles, ← hCwd, ← hSetting]
  unfold locate
  rw [StateT.run_bind]
  rcases l.loginPath.run h with ⟨login?, h'⟩
  cases l.path? <;> cases login? <;> rfl

/- A name with a slash is used as it is. -/
theorem find?_getD_of_slash
    {l : Locator}
    (hSlash : '/' ∈ l.binary.toList)
    (runs : String → Bool)
    (processPath? loginPath? : Option String) :
    (l.find? runs processPath? loginPath?).getD l.binary =
      l.binary := by
  unfold find?
  rw [if_pos (by simpa using hSlash)]
  cases runs l.binary <;> rfl

/- Any other name is looked for in the directories of the
  lists, less the empty ones. -/
theorem find?_of_not_slash
    {l : Locator}
    (hSlash : '/' ∉ l.binary.toList)
    {processPath? loginPath? : Option String}
    {own process login : List String}
    (hOwn : Path.Listed l.path? own)
    (hProcess : Path.Listed processPath? process)
    (hLogin : Path.Listed loginPath? login)
    (runs : String → Bool) :
    l.find? runs processPath? loginPath? =
      findIn? runs l.binary
        ((own ++ process ++ login ++ l.fallbacks).filter
          (· ≠ "")) := by
  unfold find?
  rw [if_neg (by simpa using hSlash),
    (Path.listed_iff _ _).mp hOwn,
    (Path.listed_iff _ _).mp hProcess,
    (Path.listed_iff _ _).mp hLogin]
  have hEmpty :
      (fun d : String => !d.isEmpty) = fun d => d ≠ "" := by
    funext d
    rw [Bool.eq_iff_iff]
    simp
  unfold directories
  rw [hEmpty]

/- What is set is the list that is given, unless it is
  blank. -/
theorem bind_unlessBlank (path? : Option String) :
    path?.bind unlessBlank =
      path?.filter fun path => !Text.allBlank path := by
  cases path? with
  | none => rfl
  | some path =>
      cases hBlank : Text.allBlank path with
      | true =>
          simp [unlessBlank_of_blank hBlank, Option.filter,
            hBlank]
      | false =>
          simp [unlessBlank_of_not_blank hBlank,
            Option.filter, hBlank]

/-
  Finding a program by a name that is not blank.  The login
  shell is asked only where that is wanted and no path is set,
  a blank one being none; then nothing else changes on the
  host.  The program gets the path that is set, or else that of
  the login shell, or none.  A name with a slash is used as it
  is.  Any other stands for a program in the first directory
  that has one, of those of the path that is set, of the
  process, of the login shell and the usual ones, less the
  empty ones; if there is none, it stands for itself.
-/
theorem locate_first
    (binary : String)
    (override? : Option String)
    (usual : List String)
    (asks : Bool)
    (h : Host)
    (hBinary : Text.allBlank binary = false) :
    let l : Locator :=
      { ofBinary binary usual with asksLoginShell := asks }
    let path? :=
      override?.filter fun path => !Text.allBlank path
    let shell :=
      if asks = true ∧ path? = none then
        LoginShell.path.run h
      else
        (none, h)
    let found := (l.withPath override?).locate.run h
    found.2 = shell.2 ∧
      found.1.environment =
          ((path?.or shell.1).map fun path =>
            ("PATH", path)).toList ∧
        ('/' ∈ binary.toList → found.1.command = binary) ∧
          ('/' ∉ binary.toList →
            ∃ own process login,
              Path.Listed path? own ∧
                Path.Listed (h.setting? "PATH") process ∧
                  Path.Listed shell.1 login ∧
                    ∀ command,
                      StandsFor (h.files.isExecutable h.cwd)
                          binary
                          ((own ++ process ++ login ++
                            usual).filter (· ≠ ""))
                          command ↔
                        command = found.1.command) := by
  intro l path? shell found
  have hName : (l.withPath override?).binary = binary := by
    simp only [l, withPath, ofBinary,
      unlessBlank_of_not_blank hBinary]
    rfl
  have hPath : (l.withPath override?).path? = path? :=
    bind_unlessBlank override?
  have hShell :
      (l.withPath override?).loginPath.run h = shell := by
    rw [run_loginPath, hPath]
    rfl
  have hFound := (l.withPath override?).run_locate h
  simp only [hShell, hPath] at hFound
  have hCommand := congrArg (fun f => f.1.command) hFound
  refine ⟨?_, ?_, ?_, ?_⟩
  · exact congrArg Prod.snd hFound
  · exact congrArg (fun f => f.1.environment) hFound
  · intro hSlash
    rw [← hName] at hSlash
    simp only [find?_getD_of_slash hSlash] at hCommand
    exact hCommand.trans hName
  · intro hSlash
    have hOwn := (Path.listed_iff path? _).mpr rfl
    have hProcess :=
      (Path.listed_iff (h.setting? "PATH") _).mpr rfl
    have hLogin := (Path.listed_iff shell.1 _).mpr rfl
    refine ⟨_, _, _, hOwn, hProcess, hLogin, ?_⟩
    intro command
    rw [← hName] at hSlash
    rw [← hPath] at hOwn
    simp only [find?_of_not_slash hSlash hOwn hProcess hLogin,
      hName] at hCommand
    rw [standsFor_iff, hCommand, hPath]
    rfl

/- A blank path is none, so the login shell counts.  Of the
  directories of the process, the first has the name as a file
  that cannot be run, the second is empty, and the third has
  the name with its ending. -/
theorem locate_first_sample :
    let h : Host :=
      { files :=
          ⟨[(["a"], .directory),
            (["a", "fmt"], .file .empty false),
            (["b"], .directory),
            (["b", "fmt.exe"], .file .empty true)]⟩,
        environment := [("PATH", "/a::/b")],
        loginPath := some (some "/c") }
    let l : Locator :=
      { ofBinary "fmt" ["/b"] with asksLoginShell := true }
    let found := (l.withPath (some " ")).locate.run h
    Text.allBlank "fmt" = false ∧
      found.1.command = "/b/fmt.exe" ∧
        found.1.environment = [("PATH", "/c")] := by
  intro h l found
  have hBinary : Text.allBlank "fmt" = false := by decide
  have hPlaces :
      Path.join "/a" "fmt" = "/a/fmt" ∧
        Path.join "/a" "fmt.exe" = "/a/fmt.exe" ∧
          Path.join "/b" "fmt" = "/b/fmt" ∧
            Path.join "/b" "fmt.exe" = "/b/fmt.exe" := by
    decide +kernel
  have hSteps :
      Files.steps "/a/fmt" = ["a", "fmt"] ∧
        Files.steps "/a/fmt.exe" = ["a", "fmt.exe"] ∧
          Files.steps "/b/fmt" = ["b", "fmt"] ∧
            Files.steps "/b/fmt.exe" = ["b", "fmt.exe"] := by
    decide +kernel
  have hPathSizes :
      "/a/fmt".utf8ByteSize = 6 ∧
        "/a/fmt.exe".utf8ByteSize = 10 ∧
          "/b/fmt".utf8ByteSize = 6 ∧
            "/b/fmt.exe".utf8ByteSize = 10 := by
    decide +kernel
  have hNameSizes :
      "a".utf8ByteSize = 1 ∧
        "b".utf8ByteSize = 1 ∧
          "fmt".utf8ByteSize = 3 ∧
            "fmt.exe".utf8ByteSize = 7 := by
    decide +kernel
  have hRuns :
      let runs := h.files.isExecutable h.cwd
      ¬ HasProgram runs "fmt" "/a" ∧
        runs (Path.join "/b" "fmt") = false ∧
          runs (Path.join "/b" ("fmt" ++ ".exe")) = true := by
    simp [h, HasProgram, hPlaces, Files.Tree.isExecutable,
      Files.Tree.find, Files.Tree.resolve, Files.Tree.walk,
      Files.Tree.get?, Files.linkLimit, Files.nameLimit,
      Files.pathLimit, hSteps, hPathSizes, hNameSizes,
      Path.isAbsolute, List.lookup_cons, bind, Except.bind,
      pure, Except.pure]
  rcases hRuns with ⟨hNone, hPlain, hEnding⟩
  have hStands :=
    StandsFor.ending ["/a"] "/b" ["/c", "/b"]
      (by simpa using hNone) hPlain hEnding
  rcases
      locate_first "fmt" (some " ") ["/b"] true h hBinary
    with ⟨-, hEnvironment, -, hCommand⟩
  rcases hCommand (by decide) with
    ⟨own, process, login, hOwn, hProcess, hLogin, hCommand⟩
  have hDirectories :
      (own ++ process ++ login ++ ["/b"]).filter (· ≠ "") =
        ["/a"] ++ "/b" :: ["/c", "/b"] := by
    rw [(Path.listed_iff _ _).mp hOwn,
      (Path.listed_iff _ _).mp hProcess,
      (Path.listed_iff _ _).mp hLogin]
    decide +kernel
  rw [← hDirectories] at hStands
  have hFound := ((hCommand _).mp hStands).symm
  refine ⟨hBinary, ?_, hEnvironment⟩
  simpa [hPlaces] using hFound

end Locator

end Reformat
