import Reformat.Json.Writer
import Reformat.Proofs.Json.Object

/-
  Objects on one line: their tokens, with spaces and tabs
  around and between them.

  Key definitions include:
    * `Json.TokensWritten`
    * `Json.objectTokens`

  Main statements:
    * `Json.TokensWritten.not_mem`
    * `Json.not_mem_objectTokens`
    * `Json.exists_object_of_tokens`
-/

------------------------------------------------------------
-- Tokens
------------------------------------------------------------

namespace Reformat

namespace Json

/- Space that stays on a line. -/
def isGap (c : Char) : Bool :=
  c = ' ' || c = '\t'

/- Tokens in order, with gaps around and between them. -/
inductive TokensWritten :
    List (List Char) → List Char → Prop
  | nil
      {gap : List Char}
      (hGap : gap.all isGap = true) :
      TokensWritten [] gap
  | cons
      {gap token rest : List Char}
      {tokens : List (List Char)}
      (hGap : gap.all isGap = true)
      (hRest : TokensWritten tokens rest) :
      TokensWritten (token :: tokens)
        (gap ++ (token ++ rest))

/- A scalar as one token. -/
def Scalar.token : Scalar → List Char
  | .word n => Text.Natural.digits n
  | .boolean b => (toString b).toList
  | .text s => (writeString s).toList

/- The tokens of members; a comma leads to a later one. -/
def memberTokens :
    Bool → List (String × Scalar) → List (List Char)
  | _, [] => []
  | first, (key, value) :: members =>
      (if first then [] else [[',']]) ++
        ('"' :: (key.toList ++ ['"'])) :: [':'] ::
          value.token :: memberTokens false members

/- The tokens of an object. -/
def objectTokens
    (members : List (String × Scalar)) : List (List Char) :=
  ['{'] :: (memberTokens true members ++ [['}']])

/- A gap is space. -/
theorem all_isSpace_of_gap
    {gap : List Char}
    (hGap : gap.all isGap = true) :
    gap.all isSpace = true := by
  rw [List.all_eq_true] at hGap ⊢
  intro c hc
  have hCases := hGap c hc
  simp only [isGap, Bool.or_eq_true,
    decide_eq_true_eq] at hCases
  rcases hCases with rfl | rfl
  · rfl
  · rfl

/- What is in no token and in no gap is not in the text. -/
theorem TokensWritten.not_mem
    {tokens : List (List Char)}
    {text : List Char}
    {c : Char}
    (h : TokensWritten tokens text)
    (hGapless : isGap c = false)
    (hTokens : ∀ token ∈ tokens, c ∉ token) :
    c ∉ text := by
  have hGaps :
      ∀ {gap : List Char},
        gap.all isGap = true → c ∉ gap := by
    intro gap hGap hMem
    have hIs := List.all_eq_true.mp hGap c hMem
    rw [hGapless] at hIs
    cases hIs
  induction h with
  | nil hGap => exact hGaps hGap
  | cons hGap hRest ih =>
      rw [List.forall_mem_cons] at hTokens
      simp only [List.mem_append, not_or]
      exact ⟨hGaps hGap, hTokens.1, ih hTokens.2⟩

/- What is in no member is in no token of them. -/
theorem not_mem_memberTokens
    {first : Bool}
    {members : List (String × Scalar)}
    {c : Char}
    (hMark : c ∉ ['"', ':', ','])
    (hMembers :
      ∀ m ∈ members, c ∉ m.1.toList ∧ c ∉ m.2.token) :
    ∀ token ∈ memberTokens first members, c ∉ token := by
  induction members generalizing first with
  | nil =>
      intro token hToken
      exact absurd hToken List.not_mem_nil
  | cons m members ih =>
      rcases m with ⟨key, value⟩
      rw [List.forall_mem_cons] at hMembers
      rcases hMembers with ⟨⟨hKey, hValue⟩, hMembers⟩
      simp only [List.mem_cons, List.not_mem_nil, or_false,
        not_or] at hMark
      intro token hToken
      simp only [memberTokens, List.mem_append,
        List.mem_cons] at hToken
      rcases hToken with hComma | rfl | rfl | rfl | hRest
      · cases first with
        | true => exact absurd hComma List.not_mem_nil
        | false =>
            rw [List.mem_singleton.mp hComma]
            simp [hMark]
      · simp [hMark, hKey]
      · simp [hMark]
      · exact hValue
      · exact ih hMembers token hRest

/- Nor is it in a token of the object, unless it is a brace. -/
theorem not_mem_objectTokens
    {members : List (String × Scalar)}
    {c : Char}
    (hMark : c ∉ ['"', ':', ','])
    (hBrace : c ∉ ['{', '}'])
    (hMembers :
      ∀ m ∈ members, c ∉ m.1.toList ∧ c ∉ m.2.token) :
    ∀ token ∈ objectTokens members, c ∉ token := by
  simp only [List.mem_cons, List.not_mem_nil, or_false,
    not_or] at hBrace
  intro token hToken
  simp only [objectTokens, List.mem_cons, List.mem_append,
    List.not_mem_nil, or_false] at hToken
  rcases hToken with rfl | hToken | rfl
  · simp [hBrace]
  · exact not_mem_memberTokens hMark hMembers token hToken
  · simp [hBrace]

end Json

end Reformat

------------------------------------------------------------
-- Objects
------------------------------------------------------------

namespace Reformat

namespace Json

/-
  The tokens of members and of the closing brace make up the
  members as they are written, and a gap after them.
-/
theorem exists_members_of_tokens
    {first : Bool}
    {members : List (String × Scalar)}
    {text : List Char}
    (hKeys : ∀ m ∈ members, m.1.toList.all isPlain = true)
    (hValues :
      ∀ m ∈ members, ScalarWritten m.2.token m.2)
    (h :
      TokensWritten (memberTokens first members ++ [['}']])
        text) :
    ∃ body after,
      text = body ++ after ∧
        MembersWritten first body members ∧
          after.all isSpace = true := by
  induction members generalizing first text with
  | nil =>
      cases h with
      | @cons gap _ rest _ hGap hRest =>
          cases hRest with
          | nil hAfter =>
              refine
                ⟨gap ++ ['}'], rest, ?_,
                  .nil (all_isSpace_of_gap hGap),
                  all_isSpace_of_gap hAfter⟩
              rw [List.append_assoc]
  | cons m members ih =>
      rcases m with ⟨key, value⟩
      rw [List.forall_mem_cons] at hKeys hValues
      rcases hKeys with ⟨hKey, hKeys⟩
      rcases hValues with ⟨hValue, hValues⟩
      -- The text is what leads to the key, and the key with
      -- all that follows it.
      have hLead :
          ∃ lead keyed,
            text = lead ++ keyed ∧
              LeadWritten first lead ∧
                ∃ rest,
                  keyed = '"' :: (key.toList ++ '"' :: rest) ∧
                    TokensWritten
                      ([':'] :: value.token ::
                        (memberTokens false members ++
                          [['}']]))
                      rest := by
        cases first with
        | true =>
            cases h with
            | @cons gap _ rest _ hGap hRest =>
                refine
                  ⟨gap, _, rfl,
                    .first (all_isSpace_of_gap hGap), rest,
                    ?_, hRest⟩
                simp
        | false =>
            cases h with
            | @cons before _ _ _ hBefore hRest =>
                cases hRest with
                | @cons gap _ rest _ hGap hRest =>
                    refine
                      ⟨before ++ ',' :: gap,
                        '"' :: (key.toList ++ '"' :: rest), ?_,
                        .later (all_isSpace_of_gap hBefore)
                          (all_isSpace_of_gap hGap),
                        rest, rfl, hRest⟩
                    simp
      rcases hLead with
        ⟨lead, _, rfl, hLead, rest, rfl, hColon⟩
      cases hColon with
      | @cons before _ _ _ hBefore hPiece =>
          cases hPiece with
          | @cons gap _ rest _ hGap hRest =>
              rcases ih hKeys hValues hRest with
                ⟨body, after, rfl, hMembers, hAfter⟩
              have hAll :=
                MembersWritten.cons hLead hKey
                  (all_isSpace_of_gap hBefore)
                  (all_isSpace_of_gap hGap) hValue hMembers
              rw [String.ofList_toList] at hAll
              exact ⟨_, after, by simp, hAll, hAfter⟩

/- The tokens of an object make up the object. -/
theorem exists_object_of_tokens
    {members : List (String × Scalar)}
    {text : List Char}
    (hKeys : ∀ m ∈ members, m.1.toList.all isPlain = true)
    (hValues :
      ∀ m ∈ members, ScalarWritten m.2.token m.2)
    (h : TokensWritten (objectTokens members) text) :
    ∃ before body after,
      text = before ++ '{' :: (body ++ after) ∧
        before.all isSpace = true ∧
          MembersWritten true body members ∧
            after.all isSpace = true := by
  cases h with
  | @cons before _ rest _ hBefore hRest =>
      rcases exists_members_of_tokens hKeys hValues hRest with
        ⟨body, after, rfl, hMembers, hAfter⟩
      exact
        ⟨before, body, after, rfl,
          all_isSpace_of_gap hBefore, hMembers, hAfter⟩

end Json

end Reformat
