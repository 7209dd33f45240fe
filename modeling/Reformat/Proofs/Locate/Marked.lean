import Reformat.Locate.LoginShell
import Reformat.Proofs.Text.Find

/-
  Which paths come back from between their marks.

  The mark begins and ends with the same one or two
  underscores.  So a text that ends in all of the mark but
  these makes a mark with the underscores of the next one, and
  the path that is read is not the one that was written.  With
  any other text in front, and any other path, it is.

  Main statements:
    * `LoginShell.halves_mark`
    * `LoginShell.markedPath?_of_half`
    * `LoginShell.markedPath?_between_marks_iff`
    * `LoginShell.markedPath?_between_marks_ne`
-/

------------------------------------------------------------
-- The Halves Of The Mark
------------------------------------------------------------

namespace Reformat

namespace LoginShell

open Text (Halves Opens)

variable {half border path : List Char}

/- There is something in the mark. -/
theorem mark_ne_nil : mark.toList ≠ [] := by
  decide +kernel

/- Only one or two underscores are at both ends of the mark. -/
theorem halves_mark
    (h : Halves mark.toList half border) :
    (half = "__FB_PATH_".toList ∧ border = ['_']) ∨
      (half = "__FB_PATH".toList ∧ border = ['_', '_']) := by
  have hPlaces :
      ∀ n < 11,
        n ≠ 0 →
          mark.toList.drop n <+: mark.toList →
            n = 9 ∨ n = 10 := by
    decide +kernel
  have hSize : mark.toList.length = 11 := by
    decide +kernel
  have hHalf : half = mark.toList.take half.length := by
    rw [← h.append, List.take_left]
  have hBorder : border = mark.toList.drop half.length := by
    rw [← h.append, List.drop_left]
  have hShort : half.length < 11 := by
    have hPositive := List.length_pos_iff.mpr h.border_ne
    have hLength := congrArg List.length h.append
    rw [List.length_append, hSize] at hLength
    omega
  have hSome : half.length ≠ 0 :=
    fun hNone => h.half_ne (List.length_eq_zero_iff.mp hNone)
  have hBegins := h.begins
  rw [hBorder] at hBegins
  rw [hHalf, hBorder]
  rcases hPlaces half.length hShort hSome hBegins with
    hNine | hTen
  · rw [hNine]
    exact Or.inr (by decide +kernel)
  · rw [hTen]
    exact Or.inl (by decide +kernel)

/- A text opens the mark when it ends in all of it but one or
  two underscores. -/
theorem opens_mark_iff (cs : List Char) :
    Opens mark.toList cs ↔
      "__FB_PATH".toList <:+ cs ∨
        "__FB_PATH_".toList <:+ cs := by
  have hOne :
      Halves mark.toList "__FB_PATH_".toList ['_'] := by
    decide +kernel
  have hTwo :
      Halves mark.toList "__FB_PATH".toList ['_', '_'] := by
    decide +kernel
  constructor
  · rintro ⟨half, border, h, hEnd⟩
    rcases halves_mark h with ⟨rfl, -⟩ | ⟨rfl, -⟩
    · exact Or.inr hEnd
    · exact Or.inl hEnd
  · rintro (hEnd | hEnd)
    · exact ⟨_, _, hTwo, hEnd⟩
    · exact ⟨_, _, hOne, hEnd⟩

/- What completes a half of the mark is no longer than any of
  its halves. -/
theorem length_border_le
    {half' border' : List Char}
    (h : Halves mark.toList half border)
    (h' : Halves mark.toList half' border') :
    border'.length ≤ half.length := by
  rcases halves_mark h with ⟨rfl, -⟩ | ⟨rfl, -⟩ <;>
    rcases halves_mark h' with ⟨-, rfl⟩ | ⟨-, rfl⟩ <;>
      decide +kernel

/- Two ways of having a path between the ends of the mark are
  one. -/
theorem eq_of_halves
    {border' : List Char}
    (h : Halves mark.toList (border' ++ path) border)
    (h' : Halves mark.toList (border ++ path) border') :
    border' = border := by
  have hNotBoth :
      ['_', '_'] ++ path = "__FB_PATH_".toList →
        ['_'] ++ path ≠ "__FB_PATH".toList := by
    intro hTwo hOne
    have hDropTwo := congrArg (List.drop 2) hTwo
    have hDropOne := congrArg (List.drop 1) hOne
    have hSame := hDropTwo.symm.trans hDropOne
    exact absurd hSame (by decide +kernel)
  rcases halves_mark h with ⟨hHalf, rfl⟩ | ⟨hHalf, rfl⟩ <;>
    rcases halves_mark h' with ⟨hHalf', rfl⟩ | ⟨hHalf', rfl⟩
  · rfl
  · exact absurd hHalf' (hNotBoth hHalf)
  · exact absurd hHalf (hNotBoth hHalf')
  · rfl

/- What stands between the ends of the mark opens none. -/
theorem not_opens_of_halves
    (h : Halves mark.toList (border ++ path) border) :
    ¬ Opens mark.toList path := by
  have hPath : path = (border ++ path).drop border.length := by
    rw [List.drop_left]
  rintro ⟨half', border', h', hEnd⟩
  rw [hPath] at hEnd
  rcases halves_mark h with ⟨hHalf, rfl⟩ | ⟨hHalf, rfl⟩ <;>
    rcases halves_mark h' with ⟨rfl, -⟩ | ⟨rfl, -⟩ <;>
      rw [hHalf] at hEnd <;>
        exact absurd hEnd (by decide +kernel)

end LoginShell

end Reformat

------------------------------------------------------------
-- Marked Paths
------------------------------------------------------------

namespace Reformat

namespace LoginShell

open Text (Halves Opens)

variable {half border : List Char}

/- Behind the first mark, a path is read up to the next. -/
theorem markedPath?_of_split
    {output : String}
    {noise rest : List Char}
    (hSplit :
      Text.splitOnce? mark.toList output.toList =
        some (noise, rest))
    (path : String) :
    markedPath? output = some path ↔
      path ≠ "" ∧
        ∃ after,
          rest = path.toList ++ mark.toList ++ after ∧
            ¬ mark.toList <:+:
              path.toList ++ mark.toList.dropLast := by
  simp only [← Text.splitOnce?_eq_some_iff mark_ne_nil]
  unfold markedPath?
  rw [hSplit]
  simp only [Option.bind_eq_bind, Option.bind_some]
  cases hNext : Text.splitOnce? mark.toList rest with
  | none => simp
  | some parts =>
      rcases parts with ⟨front, back⟩
      simp only [Option.bind_some, Option.some.injEq,
        Prod.mk.injEq, exists_and_left, exists_eq', and_true]
      by_cases hEmpty : front = []
      · subst hEmpty
        simp
      · rw [if_neg (by simpa using hEmpty), Option.some.injEq]
        constructor
        · rintro rfl
          simpa using hEmpty
        · rintro ⟨-, rfl⟩
          exact String.ofList_toList

/- Behind a text that opens no mark, a path is read as it is
  just when it opens none. -/
theorem markedPath?_of_not_opens_iff
    {noise path : String}
    (hNoise : ¬ mark.toList <:+: noise.toList)
    (hSome : path ≠ "")
    (hPath : ¬ mark.toList <:+: path.toList)
    (hOpens : ¬ Opens mark.toList noise.toList)
    (after : String) :
    markedPath? (noise ++ mark ++ path ++ mark ++ after) =
        some path ↔
      ¬ Opens mark.toList path.toList := by
  have hSplit :
      Text.splitOnce? mark.toList
          (noise ++ mark ++ path ++ mark ++ after).toList =
        some
          (noise.toList,
            path.toList ++ mark.toList ++ after.toList) := by
    apply (Text.splitOnce?_eq_some_iff mark_ne_nil _ _ _).mpr
    rw [Text.infix_append_dropLast_iff mark_ne_nil]
    refine ⟨?_, not_or_intro hNoise hOpens⟩
    simp only [String.toList_append, List.append_assoc]
  rw [markedPath?_of_split hSplit,
    Text.infix_append_dropLast_iff mark_ne_nil]
  constructor
  · rintro ⟨-, -, -, hFirst⟩ hPathOpens
    exact hFirst (Or.inr hPathOpens)
  · intro hPathOpens
    exact
      ⟨hSome, after.toList, rfl,
        not_or_intro hPath hPathOpens⟩

/- Behind a text that ends in a half of the mark, what is read
  begins with the rest of the mark. -/
theorem markedPath?_of_half
    {noise : String}
    {tail : List Char}
    (hNoise : ¬ mark.toList <:+: noise.toList)
    (hHalves : Halves mark.toList half border)
    (hTail : border ++ tail = mark.toList)
    (hEnd : half <:+ noise.toList)
    (path after read : String) :
    markedPath? (noise ++ mark ++ path ++ mark ++ after) =
        some read ↔
      read ≠ "" ∧
        ∃ back,
          tail ++ (path.toList ++ mark.toList ++ after.toList) =
              read.toList ++ mark.toList ++ back ∧
            ¬ mark.toList <:+:
              read.toList ++ mark.toList.dropLast := by
  rcases hEnd with ⟨front, hFront⟩
  have hClean : ¬ mark.toList <:+: front ++ half := by
    rw [hFront]
    exact hNoise
  have hSplit :=
    Text.splitOnce?_of_half hHalves hTail
      (fun _ _ h' => length_border_le hHalves h') hClean
      (path.toList ++ mark.toList ++ after.toList)
  have hText :
      front ++ half ++ mark.toList ++
          (path.toList ++ mark.toList ++ after.toList) =
        (noise ++ mark ++ path ++ mark ++ after).toList := by
    simp only [hFront, String.toList_append,
      List.append_assoc]
  rw [hText] at hSplit
  exact markedPath?_of_split hSplit read

/- A path that is read as it is there is what stands between
  the ends of the mark. -/
theorem halves_of_markedPath?
    {noise path after : String}
    (hNoise : ¬ mark.toList <:+: noise.toList)
    (hHalves : Halves mark.toList half border)
    (hEnd : half <:+ noise.toList)
    (hRead :
      markedPath? (noise ++ mark ++ path ++ mark ++ after) =
        some path) :
    half = border ++ path.toList := by
  rcases hHalves.begins with ⟨tail, hTail⟩
  rcases
      (markedPath?_of_half hNoise hHalves hTail hEnd path
        after path).mp hRead
    with ⟨-, back, hBack, hFirst⟩
  have hNotEnd : ¬ half <:+ path.toList := by
    intro hEnd
    apply hFirst
    rw [Text.infix_append_dropLast_iff mark_ne_nil]
    exact Or.inr ⟨half, border, hHalves, hEnd⟩
  have hLength : tail.length = half.length := by
    have hBoth :=
      congrArg List.length (hTail.trans hHalves.append.symm)
    simp only [List.length_append] at hBoth
    omega
  have hSame : tail ++ path.toList = path.toList ++ half := by
    have hAll :
        tail ++ path.toList ++ (mark.toList ++ after.toList) =
          path.toList ++ half ++ (border ++ back) := by
      calc
        _ = tail ++
            (path.toList ++ mark.toList ++ after.toList) := by
          simp only [List.append_assoc]
        _ = path.toList ++ (half ++ border) ++ back := by
          rw [hBack, hHalves.append]
        _ = _ := by simp only [List.append_assoc]
    refine (List.append_inj hAll ?_).1
    rw [List.length_append, List.length_append, hLength,
      Nat.add_comm]
  rcases Text.exists_of_append_eq_append hSame hNotEnd with
    ⟨rest, rfl, rfl⟩
  have hRest :
      Halves mark.toList (border ++ path.toList) rest :=
    { append := by rw [List.append_assoc, hTail]
      half_ne :=
        List.append_ne_nil_of_left_ne_nil hHalves.border_ne _
      border_ne := by
        rintro rfl
        exact hNotEnd List.suffix_rfl
      begins :=
        ⟨path.toList ++ border, by
          rw [← List.append_assoc, hHalves.append]⟩ }
  rw [eq_of_halves hHalves hRest]

/- What stands between the ends of the mark is read as it is
  behind itself and an end. -/
theorem markedPath?_of_halves
    {noise path : String}
    (hNoise : ¬ mark.toList <:+: noise.toList)
    (hSome : path ≠ "")
    (hPath : ¬ mark.toList <:+: path.toList)
    (hHalves :
      Halves mark.toList (border ++ path.toList) border)
    (hEnd : border ++ path.toList <:+ noise.toList)
    (after : String) :
    markedPath? (noise ++ mark ++ path ++ mark ++ after) =
      some path := by
  have hMark :
      border ++ (path.toList ++ border) = mark.toList := by
    rw [← List.append_assoc, hHalves.append]
  apply
    (markedPath?_of_half hNoise hHalves hMark hEnd path after
      path).mpr
  refine
    ⟨hSome, path.toList ++ border ++ after.toList, ?_, ?_⟩
  · simp only [← hMark, List.append_assoc]
  · rw [Text.infix_append_dropLast_iff mark_ne_nil]
    exact not_or_intro hPath (not_opens_of_halves hHalves)

/-
  A path between two marks is read as it is just when neither
  the text in front of them nor the path opens a mark, or when
  the mark is the path between two equal ends and the text in
  front has such an end and the path behind all else.  The
  mark has two such ends, of one and of two underscores.
-/
theorem markedPath?_between_marks_iff
    (noise path after : String)
    (hNoise : ¬ mark.toList <:+: noise.toList)
    (hSome : path ≠ "")
    (hPath : ¬ mark.toList <:+: path.toList) :
    markedPath? (noise ++ mark ++ path ++ mark ++ after) =
        some path ↔
      (¬ Opens mark.toList noise.toList ∧
          ¬ Opens mark.toList path.toList) ∨
        ∃ border,
          Halves mark.toList (border ++ path.toList) border ∧
            border ++ path.toList <:+ noise.toList := by
  by_cases hOpens : Opens mark.toList noise.toList
  · constructor
    · intro hRead
      rcases hOpens with ⟨half, border, hHalves, hEnd⟩
      have hHalf :=
        halves_of_markedPath? hNoise hHalves hEnd hRead
      rw [hHalf] at hHalves hEnd
      exact Or.inr ⟨border, hHalves, hEnd⟩
    · rintro (⟨hNot, -⟩ | ⟨border, hHalves, hEnd⟩)
      · exact absurd hOpens hNot
      · exact
          markedPath?_of_halves hNoise hSome hPath hHalves
            hEnd after
  · rw [markedPath?_of_not_opens_iff hNoise hSome hPath hOpens]
    constructor
    · intro hPathOpens
      exact Or.inl ⟨hOpens, hPathOpens⟩
    · rintro (⟨-, hPathOpens⟩ | ⟨border, hHalves, hEnd⟩)
      · exact hPathOpens
      · exact absurd ⟨_, _, hHalves, hEnd⟩ hOpens

/- A text in front and a path that have parts of the mark at
  their ends, but do not open one. -/
theorem markedPath?_between_marks_sample :
    let noise := "Welcome!\n__FB_PATH_x__FB_"
    let path := "_FB_PATH__/usr/bin_"
    ¬ mark.toList <:+: noise.toList ∧
      path ≠ "" ∧
        ¬ mark.toList <:+: path.toList ∧
          markedPath?
              (noise ++ mark ++ path ++ mark ++ "PATH__") =
            some path := by
  intro noise path
  have hNoise : ¬ mark.toList <:+: noise.toList := by
    decide +kernel
  have hPath : ¬ mark.toList <:+: path.toList := by
    decide +kernel
  have hNoiseOpens : ¬ Opens mark.toList noise.toList := by
    rw [opens_mark_iff]
    decide +kernel
  have hPathOpens : ¬ Opens mark.toList path.toList := by
    rw [opens_mark_iff]
    decide +kernel
  have hSome : path ≠ "" := by decide
  refine ⟨hNoise, hSome, hPath, ?_⟩
  exact
    (markedPath?_between_marks_iff noise path "PATH__" hNoise
      hSome hPath).mpr
      (Or.inl ⟨hNoiseOpens, hPathOpens⟩)

/-
  A path that is half a mark is read as none, and behind a text
  that is half a mark the other half is read with the path.
-/
theorem markedPath?_between_marks_ne :
    let half := "__FB_PATH"
    ¬ mark.toList <:+: "".toList ∧
      ¬ mark.toList <:+: half.toList ∧
        markedPath? ("" ++ mark ++ half ++ mark ++ "") =
            none ∧
          markedPath?
              (half ++ mark ++ "/usr/bin" ++ mark ++ "") =
            some "FB_PATH__/usr/bin" := by
  decide +kernel

end LoginShell

end Reformat
