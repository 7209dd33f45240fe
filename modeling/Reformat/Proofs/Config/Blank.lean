import Reformat.Proofs.Config.Normal

/-
  When the normal form of a configuration has a blank path.

  A blank path is left out before paths are expanded, not
  after.  So a path that is not blank is there in the normal
  form, and it is blank there when its expansion leaves only
  blanks: when each of its variables stands for blanks, or
  when it is a tilde and the home directory is.

  Key definitions include:
    * `Template.Vanishes`

  Main statements:
    * `Template.expand?_blank_iff`
    * `Template.Vanishes.exists_cause`
    * `Config.path_normalized_eq_none_iff`
    * `Config.blank_path_normalized_iff`
    * `Config.binary_and_path_normalized`
    * `Config.normalized_path_blank`
-/

------------------------------------------------------------
-- Pieces
------------------------------------------------------------

namespace Reformat

namespace Template

variable {setting? : String → Option String}
variable {home? : Option String}

/- Pieces stand for characters of some class just when each
  of them does. -/
theorem exists_mapM_value?_iff
    (ps : List Piece)
    (P : Char → Prop) :
    (∃ values,
        ps.mapM (Piece.value? setting?) = some values ∧
          ∀ c ∈ values.flatten, P c) ↔
      ∀ piece ∈ ps, ∃ value,
        piece.value? setting? = some value ∧
          ∀ c ∈ value, P c := by
  induction ps with
  | nil => simp
  | cons piece ps ih =>
      rw [List.forall_mem_cons, ← ih]
      cases hValue : piece.value? setting? with
      | none => simp [hValue]
      | some value =>
          cases hRest : ps.mapM (Piece.value? setting?) with
          | none => simp [hValue, hRest]
          | some values =>
              simp [hValue, hRest, or_imp, forall_and]

/- What a dollar sign begins is a variable, or has a dollar
  sign in it. -/
theorem mem_of_afterDollar
    {cs value : List Char}
    (hPiece : (afterDollar cs).1 = .characters value) :
    '$' ∈ value := by
  have hInside :
      ∀ inside, inBraces inside ≠ .characters value := by
    intro inside hEq
    unfold inBraces at hEq
    split at hEq <;> cases hEq
  unfold afterDollar at hPiece
  split at hPiece
  · cases hPiece
    exact List.mem_cons_self
  · split at hPiece
    · exact absurd hPiece (hInside _)
    · cases hPiece
      exact List.mem_cons_self
  · dsimp only at hPiece
    split at hPiece
    · cases hPiece
      exact List.mem_cons_self
    · cases hPiece

/- A text without variables whose pieces are blank is blank. -/
theorem isBlank_of_pieces
    {cs : List Char}
    (hBlank :
      ∀ piece ∈ pieces cs, ∃ value,
        piece = .characters value ∧
          ∀ c ∈ value, Text.isBlank c = true) :
    ∀ c ∈ cs, Text.isBlank c = true := by
  induction cs with
  | nil =>
      intro c hc
      cases hc
  | cons c cs ih =>
      unfold pieces at hBlank
      split at hBlank
      · -- A dollar sign is no blank.
        rcases (List.forall_mem_cons.mp hBlank).1 with
          ⟨value, hPiece, hValue⟩
        have hDollar :=
          hValue '$' (mem_of_afterDollar hPiece)
        exact absurd hDollar (by decide)
      · rw [List.forall_mem_cons] at hBlank ⊢
        rcases hBlank with ⟨⟨value, hPiece, hValue⟩, hRest⟩
        cases hPiece
        exact ⟨hValue c List.mem_cons_self, ih hRest⟩

end Template

end Reformat

------------------------------------------------------------
-- Texts That Vanish
------------------------------------------------------------

namespace Reformat

namespace Template

/-
  A text that leaves only blanks when it is expanded.  Each of
  its pieces stands for blanks, or it is a tilde in front of
  pieces that stand for nothing, and the home directory has a
  blank name.
-/
inductive Vanishes
    (setting? : String → Option String)
    (home? : Option String) : List Char → Prop
  | blanks
      {cs : List Char}
      (hHome : startsHome cs = false)
      (hBlank :
        ∀ piece ∈ pieces cs, ∃ value,
          piece.value? setting? = some value ∧
            ∀ c ∈ value, Text.isBlank c = true) :
      Vanishes setting? home? cs
  | home
      {cs : List Char}
      {home : String}
      (hHome : home? = some home)
      (hBlank : Text.allBlank home = true)
      (hNothing :
        ∀ piece ∈ pieces cs,
          piece.value? setting? = some []) :
      Vanishes setting? home? ('~' :: cs)

variable {setting? : String → Option String}
variable {home? : Option String}

/- A text is blank when its characters are. -/
theorem allBlank_iff (s : String) :
    Text.allBlank s = true ↔
      ∀ c ∈ s.toList, Text.isBlank c = true :=
  List.all_eq_true

/- Only a bare tilde leaves blanks, in a blank home. -/
theorem isBlank_inHome_iff (cs : List Char) :
    (∀ c ∈ inHome home? ('~' :: cs),
        Text.isBlank c = true) ↔
      cs = [] ∧ ∃ home,
        home? = some home ∧ Text.allBlank home = true := by
  have hTilde : Text.isBlank '~' = false := by decide
  have hSlash : Text.isBlank '/' = false := by decide
  unfold inHome
  split
  · next hBare =>
    cases hBare
    cases home? with
    | none => simp [hTilde]
    | some home => simp [allBlank_iff]
  · next rest hPath =>
    cases hPath
    simp [or_imp, forall_and, hSlash]
  · next hNotBare hNotPath =>
    have hSome : cs ≠ [] := by
      rintro rfl
      exact hNotBare rfl
    simp [hTilde, hSome]

/- The variables of a text stand for characters of a class
  just when all of its pieces do. -/
theorem exists_variables?_iff
    (cs : List Char)
    (P : Char → Prop) :
    (∃ value,
        variables? setting? cs = some value ∧
          ∀ c ∈ value, P c) ↔
      ∀ piece ∈ pieces cs, ∃ value,
        piece.value? setting? = some value ∧
          ∀ c ∈ value, P c := by
  rw [← exists_mapM_value?_iff]
  unfold variables?
  cases (pieces cs).mapM (Piece.value? setting?) with
  | none => simp
  | some values => simp

/- Pieces stand for nothing just when each of them does. -/
theorem variables?_eq_nil_iff (cs : List Char) :
    variables? setting? cs = some [] ↔
      ∀ piece ∈ pieces cs,
        piece.value? setting? = some [] := by
  have h := @exists_variables?_iff setting? cs fun _ => False
  simpa [← List.eq_nil_iff_forall_not_mem] using h

/- A tilde in front of a text stands for itself at first. -/
theorem variables?_tilde (cs : List Char) :
    variables? setting? ('~' :: cs) =
      (variables? setting? cs).map ('~' :: ·) := by
  have hPieces :
      pieces ('~' :: cs) = .characters ['~'] :: pieces cs := by
    rw [pieces, if_neg (by decide)]
  unfold variables?
  rw [hPieces, List.mapM_cons]
  cases (pieces cs).mapM (Piece.value? setting?) with
  | none => rfl
  | some values => rfl

/- Without a tilde in front, a text is expanded to blanks when
  its pieces stand for them. -/
theorem expand?_blank_iff_of_not_home
    {text : String}
    (hHome : startsHome text.toList = false) :
    (∃ out,
        expand? setting? home? text = some out ∧
          Text.allBlank out = true) ↔
      ∀ piece ∈ pieces text.toList, ∃ value,
        piece.value? setting? = some value ∧
          ∀ c ∈ value, Text.isBlank c = true := by
  rw [← exists_variables?_iff]
  unfold expand?
  rw [hHome]
  cases variables? setting? text.toList with
  | none => simp
  | some value => simp [allBlank_iff]

/- With one, when nothing stands behind it and the home
  directory has a blank name. -/
theorem expand?_blank_iff_of_home
    {text : String}
    {cs : List Char}
    (hText : text.toList = '~' :: cs) :
    (∃ out,
        expand? setting? home? text = some out ∧
          Text.allBlank out = true) ↔
      variables? setting? cs = some [] ∧ ∃ home,
        home? = some home ∧
          Text.allBlank home = true := by
  unfold expand?
  rw [hText, variables?_tilde]
  cases variables? setting? cs with
  | none => simp
  | some value =>
      simp only [Option.map_some, Option.bind_eq_bind,
        Option.bind_some, startsHome, if_true,
        Option.pure_def, Option.some.injEq,
        exists_eq_left', allBlank_iff,
        String.toList_ofList]
      simp only [isBlank_inHome_iff, allBlank_iff]

/- A text is expanded to blanks just when it vanishes. -/
theorem expand?_blank_iff (text : String) :
    (∃ out,
        expand? setting? home? text = some out ∧
          Text.allBlank out = true) ↔
      Vanishes setting? home? text.toList := by
  cases hHome : startsHome text.toList with
  | false =>
      rw [expand?_blank_iff_of_not_home hHome]
      constructor
      · exact .blanks hHome
      · generalize text.toList = cs at hHome ⊢
        intro h
        cases h with
        | blanks hNoHome hBlank => exact hBlank
        | home hIs hBlank hNothing => cases hHome
  | true =>
      unfold startsHome at hHome
      split at hHome
      · next cs hText =>
        rw [expand?_blank_iff_of_home hText,
          variables?_eq_nil_iff, hText]
        constructor
        · rintro ⟨hNothing, home, hIs, hBlank⟩
          exact .home hIs hBlank hNothing
        · intro h
          cases h with
          | blanks hNoHome hBlank => cases hNoHome
          | home hIs hBlank hNothing =>
              exact ⟨hNothing, _, hIs, hBlank⟩
      · cases hHome

/- A text that vanishes without being blank mentions a blank
  variable, or the home directory has a blank name. -/
theorem Vanishes.exists_cause
    {cs : List Char}
    (h : Vanishes setting? home? cs)
    (hText : ¬ ∀ c ∈ cs, Text.isBlank c = true) :
    (∃ home,
        home? = some home ∧ Text.allBlank home = true) ∨
      ∃ name default? value,
        Piece.variable name default? ∈ pieces cs ∧
          (setting? name).or default? = some value ∧
            Text.allBlank value = true := by
  cases h with
  | home hHome hBlank hNothing =>
      exact Or.inl ⟨_, hHome, hBlank⟩
  | blanks hHome hBlank =>
      right
      apply Classical.byContradiction
      intro hNoVariable
      apply hText
      apply isBlank_of_pieces
      intro piece hPiece
      rcases hBlank piece hPiece with
        ⟨value, hValue, hValueBlank⟩
      cases piece with
      | characters written =>
          cases hValue
          exact ⟨value, rfl, hValueBlank⟩
      | «variable» name default? =>
          rcases Option.map_eq_some_iff.mp hValue with
            ⟨given, hGiven, rfl⟩
          refine
            absurd
              ⟨name, default?, given, hPiece, hGiven, ?_⟩
              hNoVariable
          exact List.all_eq_true.mpr hValueBlank

end Template

end Reformat

------------------------------------------------------------
-- Normal Forms
------------------------------------------------------------

namespace Reformat

namespace Config

variable {c : Config}
variable {h : Host}

/- A blank path is left out of the normal form. -/
theorem path_normalized_of_blank
    {written : String}
    (hPath : c.path? = some written)
    (hBlank : Text.allBlank written = true) :
    (c.normalized h).path? = none := by
  unfold normalized
  rw [hPath, Option.bind_some, unlessBlank_of_blank hBlank]
  rfl

/- Any other path is expanded. -/
theorem path_normalized_of_not_blank
    {written : String}
    (hPath : c.path? = some written)
    (hText : Text.allBlank written = false) :
    (c.normalized h).path? =
      some (expandPath h written) := by
  unfold normalized
  rw [hPath, Option.bind_some,
    unlessBlank_of_not_blank hText]
  rfl

/- A path that is not blank is expanded to a blank one just
  when it vanishes. -/
theorem blank_expandPath_iff
    {written : String}
    (hText : Text.allBlank written = false) :
    Text.allBlank (expandPath h written) = true ↔
      Template.Vanishes h.setting? h.home?
        written.toList := by
  rw [← Template.expand?_blank_iff]
  unfold expandPath
  cases Template.expand? h.setting? h.home? written with
  | none => simp [hText]
  | some out => simp

/- The normal form has no path just when there is none to
  expand. -/
theorem path_normalized_eq_none_iff :
    (c.normalized h).path? = none ↔
      ∀ written,
        c.path? = some written →
          Text.allBlank written = true := by
  cases hPath : c.path? with
  | none => simp [normalized, hPath]
  | some written =>
      cases hBlank : Text.allBlank written with
      | true =>
          simp [path_normalized_of_blank hPath hBlank,
            hBlank]
      | false =>
          simp [path_normalized_of_not_blank hPath hBlank,
            hBlank]

/- The normal form has a blank path just when the path is not
  blank, and vanishes. -/
theorem blank_path_normalized_iff :
    (∃ path,
        (c.normalized h).path? = some path ∧
          Text.allBlank path = true) ↔
      ∃ written,
        c.path? = some written ∧
          Text.allBlank written = false ∧
            Template.Vanishes h.setting? h.home?
              written.toList := by
  cases hPath : c.path? with
  | none =>
      have hNone : (c.normalized h).path? = none := by
        rw [path_normalized_eq_none_iff, hPath]
        intro written hNo
        cases hNo
      simp [hNone]
  | some written =>
      cases hBlank : Text.allBlank written with
      | true =>
          simp [path_normalized_of_blank hPath hBlank,
            hBlank]
      | false =>
          simp [path_normalized_of_not_blank hPath hBlank,
            hBlank, blank_expandPath_iff hBlank]

/-
  The name in a normal form is not blank.  The path is left out
  when there is none, or a blank one; else it is blank just
  when it vanishes in its expansion.  It then mentions a
  variable with a blank value or a blank default, or the name
  of the home directory is blank, so without these the path of
  a normal form is none or not blank.
-/
theorem binary_and_path_normalized
    (c : Config)
    (h : Host) :
    let n := c.normalized h
    Text.allBlank n.binary = false ∧
      (n.path? = none ↔
        ∀ written,
          c.path? = some written →
            Text.allBlank written = true) ∧
      ((∃ path,
          n.path? = some path ∧
            Text.allBlank path = true) ↔
        ∃ written,
          c.path? = some written ∧
            Text.allBlank written = false ∧
              Template.Vanishes h.setting? h.home?
                written.toList) ∧
      ∀ path,
        n.path? = some path →
          Text.allBlank path = true →
            (∃ home,
                h.home? = some home ∧
                  Text.allBlank home = true) ∨
              ∃ written name default? value,
                c.path? = some written ∧
                  Template.Piece.variable name default? ∈
                      Template.pieces written.toList ∧
                    (h.setting? name).or default? =
                        some value ∧
                      Text.allBlank value = true := by
  intro n
  refine
    ⟨allBlank_binary_normalized c h,
      path_normalized_eq_none_iff,
      blank_path_normalized_iff, ?_⟩
  intro path hPath hBlank
  rcases blank_path_normalized_iff.mp
      ⟨path, hPath, hBlank⟩ with
    ⟨written, hWritten, hText, hVanishes⟩
  have hChars :
      ¬ ∀ ch ∈ written.toList,
        Text.isBlank ch = true := by
    rw [← Template.allBlank_iff, hText]
    exact Bool.false_ne_true
  rcases hVanishes.exists_cause hChars with
    hHome | ⟨name, default?, value, hPiece, hValue, hIs⟩
  · exact Or.inl hHome
  · exact
      Or.inr
        ⟨written, name, default?, value, hWritten, hPiece,
          hValue, hIs⟩

/-
  A path that is a variable with an empty value is neither left
  out of the normal form nor filled.
-/
theorem normalized_path_blank :
    let h : Host := { environment := [("EMPTY", "")] }
    let c : Config := { path? := some "$EMPTY" }
    (c.normalized h).path? = some "" ∧
      ¬ ((c.normalized h).path? = none ∨
        ∃ path,
          (c.normalized h).path? = some path ∧
            Text.allBlank path = false) := by
  intro h c
  have hPath : (c.normalized h).path? = some "" := by
    decide +kernel
  rw [hPath]
  refine ⟨rfl, ?_⟩
  rintro (hNone | ⟨path, hSome, hText⟩)
  · cases hNone
  · cases hSome
    exact absurd hText (by decide)

end Config

end Reformat
