import Reformat.Markup.Entity

/-
  Decoding undoes escaping.

  A text may be escaped in many ways: the two characters that
  markup is made of never stand for themselves, a few others
  may, and all the rest do.  Decoding reads each reference
  once and goes on after it, so every way leads back to the
  text.

  Key definitions include:
    * `Markup.CharEscaped`
    * `Markup.Escaped`

  Main statements:
    * `Markup.decode_cons`, `Markup.decode_reference`
    * `Markup.decode_of_escaped`
-/

------------------------------------------------------------
-- Escaped Texts
------------------------------------------------------------

namespace Reformat

namespace Markup

/- The references that a character may be written as. -/
def escapes : List (Char × List Char) :=
  [('<', "lt".toList), ('>', "gt".toList),
    ('&', "amp".toList), ('"', "quot".toList),
    ('\'', "apos".toList), ('\t', "#9".toList),
    ('\n', "#10".toList), ('\r', "#13".toList)]

/- A character, written as it is or as a reference. -/
inductive CharEscaped : Char → List Char → Prop
  | literal
      {c : Char}
      (hOpen : c ≠ '<')
      (hReference : c ≠ '&') :
      CharEscaped c [c]
  | reference
      {c : Char}
      {name : List Char}
      (hName : (c, name) ∈ escapes) :
      CharEscaped c ('&' :: (name ++ [';']))

/- A text, each character of it written in some way. -/
inductive Escaped : List Char → List Char → Prop
  | nil : Escaped [] []
  | cons
      {c : Char}
      {cs piece written : List Char}
      (hChar : CharEscaped c piece)
      (hRest : Escaped cs written) :
      Escaped (c :: cs) (piece ++ written)

/- No name holds a sign that ends it or begins another. -/
theorem not_mem_of_mem_escapes :
    ∀ entry ∈ escapes,
      '&' ∉ entry.2 ∧ ';' ∉ entry.2 ∧ '<' ∉ entry.2 := by
  decide

/- Each name stands for its character. -/
theorem reference?_of_mem_escapes :
    ∀ entry ∈ escapes,
      reference? entry.2 = some entry.1 := by
  decide +kernel

/- An escaped character does not open a tag. -/
theorem CharEscaped.not_mem
    {c : Char}
    {piece : List Char}
    (h : CharEscaped c piece) :
    '<' ∉ piece := by
  cases h with
  | literal hOpen hReference =>
      rw [List.mem_singleton]
      exact fun hEq => hOpen hEq.symm
  | reference hName =>
      have hNot := (not_mem_of_mem_escapes _ hName).2.2
      simpa using hNot

/- An escaped text does not open a tag. -/
theorem Escaped.not_mem
    {cs written : List Char}
    (h : Escaped cs written) :
    '<' ∉ written := by
  induction h with
  | nil => exact List.not_mem_nil
  | cons hChar hRest ih =>
      rw [List.mem_append, not_or]
      exact ⟨hChar.not_mem, ih⟩

end Markup

end Reformat

------------------------------------------------------------
-- Decoding
------------------------------------------------------------

namespace Reformat

namespace Text

/- A text without the separator lengthens the first part. -/
theorem splitOn_append
    {separator : Char}
    {front : List Char}
    (hFront : separator ∉ front)
    (cs : List Char) :
    splitOn separator (front ++ cs) =
      (front ++ (splitOn separator cs).1,
        (splitOn separator cs).2) := by
  induction front with
  | nil => rfl
  | cons c front ih =>
      rw [List.mem_cons, not_or] at hFront
      have hc : c ≠ separator := fun hEq => hFront.1 hEq.symm
      have ih := ih hFront.2
      simp only [splitOn, List.cons_append,
        List.foldr_cons] at ih ⊢
      rw [if_neg hc, ih]

end Text

namespace Markup

/- A character that begins no reference stands for itself. -/
theorem decode_cons
    {c : Char}
    (hReference : c ≠ '&')
    (cs : List Char) :
    decode (c :: cs) = c :: decode cs := by
  simp [decode, Text.splitOn, hReference]

/- A reference stands for its character and is passed over. -/
theorem decode_reference
    {c : Char}
    {name : List Char}
    (hName : reference? name = some c)
    (hAnother : '&' ∉ name)
    (hEnd : ';' ∉ name)
    (cs : List Char) :
    decode ('&' :: (name ++ ';' :: cs)) = c :: decode cs := by
  rcases hParts : Text.splitOn '&' cs with ⟨first, others⟩
  have hBody : '&' ∉ name ++ [';'] := by
    simpa using hAnother
  have hRest :
      Text.splitOn '&' (name ++ ';' :: cs) =
        (name ++ ';' :: first, others) := by
    have h := Text.splitOn_append hBody cs
    rw [hParts] at h
    simpa using h
  have hSplit :
      Text.splitOn '&' ('&' :: (name ++ ';' :: cs)) =
        ([], (name ++ ';' :: first) :: others) := by
    rw [← List.nil_append ('&' :: _),
      Text.splitOn_append_cons _ _ _ List.not_mem_nil, hRest]
  have hAfter :
      decodeAfter (name ++ ';' :: first) = c :: first := by
    unfold decodeAfter
    rw [Text.splitOn_append_cons _ _ _ hEnd]
    simp [hName]
  simp [decode, hSplit, hParts, hAfter]

/- Every way of escaping a text leads back to it. -/
theorem decode_of_escaped
    {cs written : List Char}
    (h : Escaped cs written) :
    decode written = cs := by
  induction h with
  | nil => rfl
  | cons hChar hRest ih =>
      cases hChar with
      | literal hOpen hReference =>
          rw [List.singleton_append, decode_cons hReference,
            ih]
      | reference hName =>
          rcases not_mem_of_mem_escapes _ hName with
            ⟨hAnother, hEnd, _⟩
          rw [List.cons_append, List.append_assoc,
            List.singleton_append,
            decode_reference
              (reference?_of_mem_escapes _ hName) hAnother
              hEnd,
            ih]

end Markup

end Reformat
