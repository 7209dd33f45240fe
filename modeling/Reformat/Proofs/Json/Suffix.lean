import Reformat.Json.Record
import Reformat.Proofs.Attempt

/-
  Readers go through a text from the left: what they leave of
  it is an end of it.

  A record is closed by a bracket that stands in the text, so
  a text without one holds no record.

  Main statements:
    * `Json.suffix_stringRest`
    * `Json.suffix_number`
    * `Json.suffix_skipValue`
    * `Json.suffix_readScalar`
    * `Json.Record.exists_bracket_of_read`
-/

------------------------------------------------------------
-- Space And Words
------------------------------------------------------------

namespace Reformat

namespace Json

/- Space is got past. -/
theorem suffix_skipSpace (cs : List Char) :
    skipSpace cs <:+ cs :=
  List.dropWhile_suffix isSpace

/- What follows the first character after the space. -/
theorem suffix_of_skipSpace_cons
    {cs rest : List Char}
    {c : Char}
    (h : skipSpace cs = c :: rest) :
    rest <:+ cs := by
  have hSuffix := suffix_skipSpace cs
  rw [h] at hSuffix
  exact (List.suffix_cons c rest).trans hSuffix

/- The character after the space is one of the text. -/
theorem mem_of_skipSpace_cons
    {cs rest : List Char}
    {c : Char}
    (h : skipSpace cs = c :: rest) :
    c ∈ cs := by
  have hSuffix := suffix_skipSpace cs
  rw [h] at hSuffix
  exact hSuffix.subset List.mem_cons_self

/- A fixed word is got past. -/
theorem suffix_word
    {ws cs rest : List Char}
    (h : word ws cs = .ok rest) :
    rest <:+ cs := by
  induction ws generalizing cs with
  | nil =>
      cases h
      exact List.suffix_rfl
  | cons w ws ih =>
      cases cs with
      | nil => cases h
      | cons c cs =>
          unfold word at h
          split at h
          · exact (ih h).trans (List.suffix_cons c cs)
          · cases h

end Json

end Reformat

------------------------------------------------------------
-- Strings
------------------------------------------------------------

namespace Reformat

namespace Json

/- Four digits are got past. -/
theorem suffix_hexEscape
    {cs rest : List Char}
    {n : Nat}
    (h : hexEscape cs = .ok (n, rest)) :
    rest <:+ cs := by
  unfold hexEscape at h
  split at h
  · split at h
    · simp only [Except.ok.injEq, Prod.mk.injEq] at h
      rw [← h.2]
      exact ⟨[_, _, _, _], rfl⟩
    · cases h
  · split at h <;> cases h

/- The second half of a pair is got past. -/
theorem suffix_lowEscape
    {high : Nat}
    {cs rest : List Char}
    {c : Char}
    (h : lowEscape high cs = .ok (c, rest)) :
    rest <:+ cs := by
  unfold lowEscape at h
  split at h
  · cases h
  · next b cs =>
    split at h
    · cases h
    · split at h
      · cases h
      · next u cs =>
        split at h
        · cases h
        · split at h
          · cases h
          · next hHex =>
            split at h
            · simp only [Except.ok.injEq, Prod.mk.injEq] at h
              rw [← h.2]
              exact
                (suffix_hexEscape hHex).trans
                  ⟨[b, u], rfl⟩
            · cases h

/- A code unit, or a pair of them, is got past. -/
theorem suffix_unicodeEscape
    {cs rest : List Char}
    {c : Char}
    (h : unicodeEscape cs = .ok (c, rest)) :
    rest <:+ cs := by
  unfold unicodeEscape at h
  split at h
  · cases h
  · next hHex =>
    split at h
    · cases h
    · split at h
      · exact
          (suffix_lowEscape h).trans (suffix_hexEscape hHex)
      · cases h
        exact suffix_hexEscape hHex

/- An escape is got past. -/
theorem suffix_escape
    {cs rest : List Char}
    {c : Char}
    (h : escape cs = .ok (c, rest)) :
    rest <:+ cs := by
  unfold escape at h
  split at h
  · cases h
  · split at h
    · exact
        (suffix_unicodeEscape h).trans (List.suffix_cons _ _)
    · split at h
      · cases h
        exact List.suffix_cons _ _
      · cases h

/- An escape that nobody reads is got past. -/
theorem suffix_skipEscape
    {cs rest : List Char}
    (h : skipEscape cs = .ok rest) :
    rest <:+ cs := by
  unfold skipEscape at h
  split at h
  · cases h
  · split at h
    · rcases Attempt.map_eq_ok_iff.mp h with
        ⟨found, hHex, rfl⟩
      exact
        (suffix_hexEscape hHex).trans (List.suffix_cons _ _)
    · split at h
      · cases h
        exact List.suffix_cons _ _
      · cases h

/- A string is got past. -/
theorem suffix_stringFrom
    {done cs rest : List Char}
    {s : String}
    (h : stringFrom done cs = .ok (s, rest)) :
    rest <:+ cs := by
  fun_induction stringFrom done cs with
  | case1 => cases h
  | case2 =>
      cases h
      exact List.suffix_cons _ _
  | case3 => cases h
  | case4 _ _ _ _ hEscape _ ih =>
      exact
        ((ih h).trans (suffix_escape hEscape)).trans
          (List.suffix_cons _ _)
  | case5 => cases h
  | case6 _ _ _ _ _ _ ih =>
      exact (ih h).trans (List.suffix_cons _ _)

/- A string is got past. -/
theorem suffix_stringRest
    {cs rest : List Char}
    {s : String}
    (h : stringRest cs = .ok (s, rest)) :
    rest <:+ cs :=
  suffix_stringFrom h

/- A string that nobody reads is got past. -/
theorem suffix_skipString
    {cs rest : List Char}
    (h : skipString cs = .ok rest) :
    rest <:+ cs := by
  fun_induction skipString cs with
  | case1 => cases h
  | case2 =>
      cases h
      exact List.suffix_cons _ _
  | case3 => cases h
  | case4 _ _ hEscape _ ih =>
      exact
        ((ih h).trans (suffix_skipEscape hEscape)).trans
          (List.suffix_cons _ _)
  | case5 => cases h
  | case6 _ _ _ _ _ ih =>
      exact (ih h).trans (List.suffix_cons _ _)

end Json

end Reformat

------------------------------------------------------------
-- Numbers
------------------------------------------------------------

namespace Reformat

namespace Json

/- Digits are got past. -/
theorem suffix_of_digits
    {cs ds rest : List Char}
    (h : digits cs = (ds, rest)) :
    rest <:+ cs := by
  cases h
  exact List.dropWhile_suffix Char.isDigit

/- The sign of an exponent is got past. -/
theorem suffix_exponentSign (cs : List Char) :
    (exponentSign cs).2 <:+ cs := by
  unfold exponentSign
  split
  · exact List.suffix_cons _ _
  · exact List.suffix_cons _ _
  · exact List.suffix_rfl

/- An exponent is got past. -/
theorem suffix_exponentPart
    {positive : Bool}
    {value : Nat}
    {start : Int}
    {cs rest : List Char}
    {x : Float}
    (h : exponentPart positive value start cs = .ok (x, rest)) :
    rest <:+ cs := by
  have hSign := suffix_exponentSign cs
  unfold exponentPart at h
  simp only at h
  split at h
  · cases h
  · cases h
  · next hDigits =>
    have hRest := (suffix_of_digits hDigits).trans hSign
    split at h
    · split at h
      · cases h
      · cases h
        exact hRest
    · rcases Attempt.map_eq_ok_iff.mp h with ⟨y, -, hy⟩
      cases hy
      exact hRest

/- An exponent is got past, if there is one. -/
theorem suffix_exponentPart?
    {positive : Bool}
    {value : Nat}
    {start : Int}
    {cs rest : List Char}
    {x : Float}
    (h :
      exponentPart? positive value start cs =
        .ok (x, rest)) :
    rest <:+ cs := by
  unfold exponentPart? at h
  split at h
  · exact (suffix_exponentPart h).trans (List.suffix_cons _ _)
  · exact (suffix_exponentPart h).trans (List.suffix_cons _ _)
  · rcases Attempt.map_eq_ok_iff.mp h with ⟨y, -, hy⟩
    cases hy
    exact List.suffix_rfl

/- Decimal places are got past. -/
theorem suffix_decimalPart
    {positive : Bool}
    {value : Nat}
    {start : Int}
    {cs rest : List Char}
    {x : Float}
    (h : decimalPart positive value start cs = .ok (x, rest)) :
    rest <:+ cs := by
  unfold decimalPart at h
  split at h
  · cases h
  · cases h
  · next hDigits =>
    exact
      (suffix_exponentPart? h).trans (suffix_of_digits hDigits)

/- What follows the digits before the point is got past. -/
theorem suffix_numberTail
    {positive : Bool}
    {s : Significand}
    {cs rest : List Char}
    {n : Number}
    (h : numberTail positive s cs = .ok (n, rest)) :
    rest <:+ cs := by
  unfold numberTail at h
  simp only at h
  split at h
  · rcases Attempt.map_eq_ok_iff.mp h with
      ⟨⟨x, after⟩, hPart, hEq⟩
    cases hEq
    exact
      (suffix_decimalPart hPart).trans (List.suffix_cons _ _)
  · split at h
    · cases h
      exact List.suffix_rfl
    · rcases Attempt.map_eq_ok_iff.mp h with
        ⟨⟨x, after⟩, hPart, hEq⟩
      cases hEq
      exact suffix_exponentPart? hPart

/- A number without a sign is got past. -/
theorem suffix_unsignedNumber
    {positive : Bool}
    {cs rest : List Char}
    {n : Number}
    (h : unsignedNumber positive cs = .ok (n, rest)) :
    rest <:+ cs := by
  unfold unsignedNumber at h
  split at h
  · cases h
  · cases h
  · next hDigits =>
    exact (suffix_numberTail h).trans (suffix_of_digits hDigits)
  · cases h
  · next hDigits =>
    exact (suffix_numberTail h).trans (suffix_of_digits hDigits)

/- A number is got past. -/
theorem suffix_number
    {cs rest : List Char}
    {n : Number}
    (h : number cs = .ok (n, rest)) :
    rest <:+ cs := by
  unfold number at h
  split at h
  · exact
      (suffix_unsignedNumber h).trans (List.suffix_cons _ _)
  · exact suffix_unsignedNumber h

/- An exponent that nobody reads is got past. -/
theorem suffix_skipExponent
    {cs rest : List Char}
    (h : skipExponent cs = .ok rest) :
    rest <:+ cs := by
  unfold skipExponent at h
  split at h
  · cases h
  · next hDigits =>
    cases h
    exact
      (suffix_of_digits hDigits).trans
        (suffix_exponentSign cs)

/- An exponent that nobody reads, if there is one. -/
theorem suffix_skipExponent?
    {cs rest : List Char}
    (h : skipExponent? cs = .ok rest) :
    rest <:+ cs := by
  unfold skipExponent? at h
  split at h
  · exact (suffix_skipExponent h).trans (List.suffix_cons _ _)
  · exact (suffix_skipExponent h).trans (List.suffix_cons _ _)
  · cases h
    exact List.suffix_rfl

/- A number that nobody reads is got past. -/
theorem suffix_skipNumber
    {cs rest : List Char}
    (h : skipNumber cs = .ok rest) :
    rest <:+ cs := by
  unfold skipNumber at h
  extract_lets front at h
  have hSign : front <:+ cs := by
    unfold front
    split
    · exact List.suffix_cons _ _
    · exact List.suffix_rfl
  split at h
  · cases h
  · cases h
  · next hDigits =>
    have hPoint :=
      (List.suffix_cons _ _).trans
        ((suffix_of_digits hDigits).trans hSign)
    split at h
    · cases h
    · next hPlaces =>
      exact
        ((suffix_skipExponent? h).trans
          (suffix_of_digits hPlaces)).trans hPoint
  · next hDigits =>
    exact
      (suffix_skipExponent? h).trans
        ((suffix_of_digits hDigits).trans hSign)

end Json

end Reformat

------------------------------------------------------------
-- Values That Nobody Reads
------------------------------------------------------------

namespace Reformat

namespace Json

/- A colon is got past. -/
theorem suffix_skipColon
    {cs rest : List Char}
    (h : skipColon cs = .ok rest) :
    rest <:+ cs := by
  unfold skipColon at h
  split at h
  · cases h
  · next hSpace =>
    split at h
    · cases h
      exact suffix_of_skipSpace_cons hSpace
    · cases h

/- What precedes a value inside a bracket is got past. -/
theorem suffix_skipKey
    {b : Bracket}
    {cs rest : List Char}
    (h : skipKey b cs = .ok rest) :
    rest <:+ cs := by
  unfold skipKey at h
  split at h
  · cases h
    exact List.suffix_rfl
  · split at h
    · cases h
    · next hSpace =>
      split at h
      · rcases Attempt.bind_eq_ok_iff.mp h with
          ⟨after, hString, hColon⟩
        exact
          ((suffix_skipColon hColon).trans
            (suffix_skipString hString)).trans
              (suffix_of_skipSpace_cons hSpace)
      · cases h

/- A scalar, or the front of a bracket, is got past. -/
theorem suffix_skipScalar
    {cs rest : List Char}
    {b? : Option Bracket}
    (h : skipScalar cs = .ok (b?, rest)) :
    rest <:+ cs := by
  unfold skipScalar at h
  split at h
  · cases h
  · next c after hSpace =>
    have hAfter := suffix_of_skipSpace_cons hSpace
    have hAll : c :: after <:+ cs :=
      hSpace ▸ suffix_skipSpace cs
    have hScalar :
        ∀ {r : Except Error (List Char)} {front : List Char},
          (∀ end', r = .ok end' → end' <:+ front) →
            front <:+ cs →
              r.map (fun cs => ((none : Option Bracket), cs)) =
                  .ok (b?, rest) →
                rest <:+ cs := by
      intro r front hRead hFront hMap
      rcases Attempt.map_eq_ok_iff.mp hMap with
        ⟨end', hOk, hEq⟩
      cases hEq
      exact (hRead _ hOk).trans hFront
    simp only at h
    split at h
    · exact hScalar (fun _ => suffix_word) hAfter h
    split at h
    · exact hScalar (fun _ => suffix_word) hAfter h
    split at h
    · exact hScalar (fun _ => suffix_word) hAfter h
    split at h
    · exact hScalar (fun _ => suffix_skipString) hAfter h
    split at h
    · exact hScalar (fun _ => suffix_skipNumber) hAll h
    split at h
    · cases h
      exact hAfter
    split at h
    · cases h
      exact hAfter
    · cases h

/- Whatever a value holds, it is got past. -/
theorem suffix_skipFrom
    {steps : Nat}
    {brackets : List Bracket}
    {place : Place}
    {cs rest : List Char}
    (h : skipFrom steps brackets place cs = .ok rest) :
    rest <:+ cs := by
  fun_induction skipFrom steps brackets place cs with
  | case1 => cases h
  | case2 => cases h
  | case3 _ _ _ _ _ hScalar ih =>
      exact (ih h).trans (suffix_skipScalar hScalar)
  | case4 _ _ _ _ hScalar ih =>
      exact (ih h).trans (suffix_skipScalar hScalar)
  | case5 =>
      cases h
      exact List.suffix_rfl
  | case6 => cases h
  | case7 _ _ _ _ _ hSpace ih =>
      exact (ih h).trans (suffix_of_skipSpace_cons hSpace)
  | case8 => cases h
  | case9 _ _ _ _ _ _ hSpace _ _ hKey ih =>
      exact
        ((ih h).trans (suffix_skipKey hKey)).trans
          (hSpace ▸ suffix_skipSpace _)
  | case10 => cases h
  | case11 => cases h
  | case12 _ _ _ _ _ _ hKey hSpace ih =>
      exact
        ((ih h).trans (suffix_skipKey hKey)).trans
          (suffix_of_skipSpace_cons hSpace)
  | case13 _ _ _ _ _ hSpace _ ih =>
      exact (ih h).trans (suffix_of_skipSpace_cons hSpace)
  | case14 => cases h

/- A value that nobody reads is got past. -/
theorem suffix_skipValue
    {size : Nat}
    {cs rest : List Char}
    (h : skipValue size cs = .ok rest) :
    rest <:+ cs :=
  suffix_skipFrom h

end Json

end Reformat

------------------------------------------------------------
-- Scalars
------------------------------------------------------------

namespace Reformat

namespace Json

/- An error about the type of a value reads nothing. -/
theorem wrongType_ne_ok
    {α : Type}
    {expected : String}
    {found : Found}
    {a : α} :
    wrongType expected found ≠ .ok a := by
  intro h
  cases h

/- Nothing is read at a value of another kind. -/
theorem mismatchAt_ne_ok
    {α : Type}
    {expected : String}
    {cs : List Char}
    {a : α} :
    mismatchAt expected cs ≠ .ok a := by
  intro h
  unfold mismatchAt at h
  split at h
  · cases h
  · split at h
    · exact Attempt.bind_ne_ok (fun _ => wrongType_ne_ok) h
    split at h
    · exact Attempt.bind_ne_ok (fun _ => wrongType_ne_ok) h
    split at h
    · exact Attempt.bind_ne_ok (fun _ => wrongType_ne_ok) h
    split at h
    · exact Attempt.bind_ne_ok (fun _ => wrongType_ne_ok) h
    split at h
    · exact Attempt.bind_ne_ok (fun _ => wrongType_ne_ok) h
    split at h
    · cases h
    split at h <;> cases h

/- A number that is a word is got past. -/
theorem suffix_readWord
    {cs rest : List Char}
    {value : Scalar}
    (h : readWord cs = .ok (value, rest)) :
    rest <:+ cs := by
  unfold readWord at h
  split at h
  · cases h
  · next hNumber =>
    cases h
    exact suffix_number hNumber
  · cases h
  · cases h

/- A truth value is got past. -/
theorem suffix_readBoolean
    {cs rest : List Char}
    {value : Scalar}
    (h : readBoolean cs = .ok (value, rest)) :
    rest <:+ cs := by
  unfold readBoolean at h
  split at h
  · rcases Attempt.map_eq_ok_iff.mp h with ⟨_, hWord, hEq⟩
    cases hEq
    exact (suffix_word hWord).trans (List.suffix_cons _ _)
  · rcases Attempt.map_eq_ok_iff.mp h with ⟨_, hWord, hEq⟩
    cases hEq
    exact (suffix_word hWord).trans (List.suffix_cons _ _)
  · exact absurd h mismatchAt_ne_ok

/- A string that is a value is got past. -/
theorem suffix_readText
    {cs rest : List Char}
    {value : Scalar}
    (h : readText cs = .ok (value, rest)) :
    rest <:+ cs := by
  unfold readText at h
  split at h
  · rcases Attempt.map_eq_ok_iff.mp h with
      ⟨⟨s, _⟩, hString, hEq⟩
    cases hEq
    exact
      (suffix_stringRest hString).trans (List.suffix_cons _ _)
  · exact absurd h mismatchAt_ne_ok

/- A scalar is got past. -/
theorem suffix_readScalar
    {kind : Kind}
    {cs rest : List Char}
    {value : Scalar}
    (h : readScalar kind cs = .ok (value, rest)) :
    rest <:+ cs := by
  have hSpace := suffix_skipSpace cs
  unfold readScalar at h
  split at h
  · cases h
  · split at h
    · split at h
      · exact (suffix_readWord h).trans hSpace
      · exact absurd h mismatchAt_ne_ok
    · exact (suffix_readBoolean h).trans hSpace
    · exact (suffix_readText h).trans hSpace

end Json

end Reformat

------------------------------------------------------------
-- Records
------------------------------------------------------------

namespace Reformat

namespace Json

/- What is left is an element's value, or the list's end. -/
theorem suffix_nextElement
    {first more : Bool}
    {cs rest : List Char}
    (h : nextElement first cs = .ok (more, rest)) :
    rest <:+ cs := by
  unfold nextElement at h
  split at h
  · cases h
  · next hSpace =>
    cases h
    exact hSpace ▸ suffix_skipSpace cs
  · next hSpace =>
    split at h
    · cases h
      exact hSpace ▸ suffix_skipSpace cs
    · split at h
      · split at h
        · cases h
        · cases h
        · cases h
          exact
            (suffix_skipSpace _).trans
              (suffix_of_skipSpace_cons hSpace)
      · cases h

/- The elements of a list are got past. -/
theorem suffix_readElements
    {r : Record}
    {first : Bool}
    {index : Nat}
    {fields : List Field}
    {cs rest : List Char}
    {values : List Scalar}
    (h :
      readElements r first index fields cs =
        .ok (values, rest)) :
    rest <:+ cs := by
  induction fields generalizing first index cs values with
  | nil =>
      cases h
      exact List.suffix_rfl
  | cons f fields ih =>
      unfold readElements at h
      rcases Attempt.bind_eq_ok_iff.mp h with
        ⟨⟨more, after⟩, hNext, h⟩
      have hAfter := suffix_nextElement hNext
      cases more with
      | true =>
          rcases Attempt.bind_eq_ok_iff.mp h with
            ⟨⟨value, later⟩, hValue, h⟩
          rcases Attempt.bind_eq_ok_iff.mp h with
            ⟨⟨others, end'⟩, hOthers, h⟩
          cases h
          exact
            ((ih hOthers).trans
              (suffix_readScalar hValue)).trans hAfter
      | false =>
          simp only at h
          split at h
          · cases h
          · rcases Attempt.bind_eq_ok_iff.mp h with
              ⟨⟨others, end'⟩, hOthers, h⟩
            cases h
            exact (ih hOthers).trans hAfter

/- A list that ends does so with a bracket. -/
theorem mem_of_endList
    {cs rest : List Char}
    (h : endList cs = .ok rest) :
    ']' ∈ cs := by
  unfold endList at h
  split at h
  · cases h
  · next hSpace =>
    exact mem_of_skipSpace_cons hSpace
  · split at h <;> cases h
  · cases h

/-
  Another member stands in the rest; when there is none, the
  object has ended with a brace.
-/
theorem nextMember_eq_ok
    {first more : Bool}
    {cs rest : List Char}
    (h : nextMember first cs = .ok (more, rest)) :
    rest <:+ cs ∧ (more = false → '}' ∈ cs) := by
  unfold nextMember at h
  split at h
  · cases h
  · next hSpace =>
    cases h
    exact
      ⟨suffix_of_skipSpace_cons hSpace,
        fun _ => mem_of_skipSpace_cons hSpace⟩
  · next hSpace =>
    have hAfter := suffix_of_skipSpace_cons hSpace
    split at h
    · split at h
      · cases h
        exact ⟨hAfter, nofun⟩
      · cases h
    · split at h
      · split at h
        · cases h
        · next hQuote =>
          cases h
          exact
            ⟨(suffix_of_skipSpace_cons hQuote).trans hAfter,
              nofun⟩
        · cases h
        · cases h
      · cases h

/-
  Members that are read end with a brace of the text: each of
  them leaves an end of it, and none of them is the last until
  the brace is found.
-/
theorem mem_of_readMembers
    {r : Record}
    {first : Bool}
    {values all : List (String × Scalar)}
    {size : Nat}
    {cs rest : List Char}
    (h :
      readMembers r first values size cs = .ok (all, rest)) :
    '}' ∈ cs := by
  induction size generalizing first values cs with
  | zero => cases h
  | succ size ih =>
      unfold readMembers at h
      rcases Attempt.bind_eq_ok_iff.mp h with
        ⟨⟨more, after⟩, hNext, h⟩
      rcases nextMember_eq_ok hNext with ⟨hAfter, hLast⟩
      cases more with
      | false => exact hLast rfl
      | true =>
          rcases Attempt.bind_eq_ok_iff.mp h with
            ⟨⟨key, later⟩, hKey, h⟩
          have hLater :=
            (suffix_stringRest hKey).trans hAfter
          simp only at h
          split at h
          · rcases Attempt.bind_eq_ok_iff.mp h with
              ⟨_, hColon, h⟩
            rcases Attempt.bind_eq_ok_iff.mp h with
              ⟨_, hValue, h⟩
            have hRest :=
              ((suffix_skipValue hValue).trans
                (suffix_skipColon hColon)).trans hLater
            exact hRest.subset (ih h)
          · split at h
            · cases h
            · rcases Attempt.bind_eq_ok_iff.mp h with
                ⟨_, hColon, h⟩
              rcases Attempt.bind_eq_ok_iff.mp h with
                ⟨_, hValue, h⟩
              have hRest :=
                ((suffix_readScalar hValue).trans
                  (suffix_skipColon hColon)).trans hLater
              exact hRest.subset (ih h)

/- A text that holds a record holds a closing bracket. -/
theorem Record.exists_bracket_of_read
    {r : Record}
    {text : List Char}
    {values : List Scalar}
    (h : r.read text = .ok values) :
    ∃ c ∈ text, c = '}' ∨ c = ']' := by
  unfold Record.read at h
  split at h
  · cases h
  · next hSpace =>
    rcases Attempt.bind_eq_ok_iff.mp h with
      ⟨⟨all, after⟩, hElements, h⟩
    rcases Attempt.bind_eq_ok_iff.mp h with ⟨_, hEnd, -⟩
    have hAfter :=
      (suffix_readElements hElements).trans
        (suffix_of_skipSpace_cons hSpace)
    exact
      ⟨']', hAfter.subset (mem_of_endList hEnd), Or.inr rfl⟩
  · next hSpace =>
    rcases Attempt.bind_eq_ok_iff.mp h with
      ⟨⟨all, after⟩, hMembers, -⟩
    have hAfter := suffix_of_skipSpace_cons hSpace
    exact
      ⟨'}', hAfter.subset (mem_of_readMembers hMembers),
        Or.inl rfl⟩
  · exact absurd h mismatchAt_ne_ok

end Json

end Reformat
