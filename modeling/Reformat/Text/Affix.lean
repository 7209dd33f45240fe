/-
  Taking texts apart at a mark, and taking off a known
  beginning or end.

  Key definitions include:
    * `Text.stretch`
    * `Text.after?`
    * `Text.before?`

  Main statements:
    * `Text.after?_eq_some_iff`
    * `Text.before?_eq_some_iff`
-/

------------------------------------------------------------
-- Stretches
------------------------------------------------------------

namespace Reformat

namespace Text

/- The characters up to a mark, and those from it on. -/
def stretch
    (mark : Char)
    (cs : List Char) : List Char × List Char :=
  (cs.takeWhile (· ≠ mark), cs.dropWhile (· ≠ mark))

/- A stretch and what follows it are the text. -/
theorem stretch_append
    (mark : Char)
    (cs : List Char) :
    (stretch mark cs).1 ++ (stretch mark cs).2 = cs :=
  List.takeWhile_append_dropWhile

/- What follows a stretch is no longer than the text. -/
theorem length_stretch_snd_le
    (mark : Char)
    (cs : List Char) :
    (stretch mark cs).2.length ≤ cs.length := by
  have h := congrArg List.length (stretch_append mark cs)
  simp only [List.length_append] at h
  omega

end Text

end Reformat

------------------------------------------------------------
-- Beginnings And Ends
------------------------------------------------------------

namespace Reformat

namespace Text

/- The text after a fixed beginning. -/
def afterChars? :
    List Char → List Char → Option (List Char)
  | [], cs => some cs
  | _ :: _, [] => none
  | b :: beginning, c :: cs =>
      if b = c then afterChars? beginning cs else none

/- A beginning and what follows it are the text. -/
theorem afterChars?_eq_some_iff
    (beginning cs rest : List Char) :
    afterChars? beginning cs = some rest ↔
      cs = beginning ++ rest := by
  induction beginning generalizing cs with
  | nil => simp [afterChars?]
  | cons b beginning ih =>
      cases cs with
      | nil => simp [afterChars?]
      | cons c cs =>
          by_cases h : b = c
          · simp [afterChars?, h, ih]
          · simp [afterChars?, h, eq_comm]

/- The text after a fixed beginning. -/
def after?
    (beginning : String)
    (cs : List Char) :
    Option (List Char) :=
  afterChars? beginning.toList cs

/- A beginning and what follows it are the text. -/
theorem after?_eq_some_iff
    (beginning : String)
    (cs rest : List Char) :
    after? beginning cs = some rest ↔
      cs = beginning.toList ++ rest :=
  afterChars?_eq_some_iff _ _ _

/- The text before a fixed end. -/
def before?
    (ending : String)
    (cs : List Char) :
    Option (List Char) :=
  (afterChars? ending.toList.reverse cs.reverse).map
    List.reverse

/- What comes before an end and that end are the text. -/
theorem before?_eq_some_iff
    (ending : String)
    (cs front : List Char) :
    before? ending cs = some front ↔
      cs = front ++ ending.toList := by
  unfold before?
  simp only [Option.map_eq_some_iff,
    afterChars?_eq_some_iff]
  constructor
  · rintro ⟨back, h, rfl⟩
    have h := congrArg List.reverse h
    simpa using h
  · rintro rfl
    exact ⟨front.reverse, by simp⟩

/- What follows a beginning is shorter by it. -/
theorem length_after?
    {beginning : String}
    {cs rest : List Char}
    (h : after? beginning cs = some rest) :
    cs.length = beginning.toList.length + rest.length := by
  rw [(after?_eq_some_iff _ _ _).mp h]
  simp

end Text

end Reformat
