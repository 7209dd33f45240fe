import Reformat.Proofs.Attempt
import Reformat.Proofs.Json.Scalar

/-
  How a record is written as an object, and that its members
  are read in order, with any space between them.

  Key definitions include:
    * `Json.LeadWritten`
    * `Json.MembersWritten`

  Main statements:
    * `Json.readMembers_append`
    * `Json.Record.read_of_written`
-/

------------------------------------------------------------
-- Members As They Are Written
------------------------------------------------------------

namespace Reformat

namespace Json

/- What stands before the key of a first or later member. -/
inductive LeadWritten : Bool → List Char → Prop
  | first
      {gap : List Char}
      (hGap : gap.all isSpace = true) :
      LeadWritten true gap
  | later
      {before after : List Char}
      (hBefore : before.all isSpace = true)
      (hAfter : after.all isSpace = true) :
      LeadWritten false (before ++ ',' :: after)

/-
  Members with plain keys, the brace that closes the object
  among them.
-/
inductive MembersWritten :
    Bool → List Char → List (String × Scalar) → Prop
  | nil
      {first : Bool}
      {gap : List Char}
      (hGap : gap.all isSpace = true) :
      MembersWritten first (gap ++ ['}']) []
  | cons
      {first : Bool}
      {lead key before after piece rest : List Char}
      {value : Scalar}
      {members : List (String × Scalar)}
      (hLead : LeadWritten first lead)
      (hKey : key.all isPlain = true)
      (hBefore : before.all isSpace = true)
      (hAfter : after.all isSpace = true)
      (hValue : ScalarWritten piece value)
      (hRest : MembersWritten false rest members) :
      MembersWritten first
        (lead ++
          '"' ::
            (key ++
              '"' ::
                (before ++ ':' :: (after ++ (piece ++ rest)))))
        ((String.ofList key, value) :: members)

namespace MembersWritten

/- A member takes at least one character. -/
theorem length_le
    {first : Bool}
    {text : List Char}
    {members : List (String × Scalar)}
    (h : MembersWritten first text members) :
    members.length ≤ text.length := by
  induction h with
  | nil hGap => exact Nat.zero_le _
  | cons hLead hKey hBefore hAfter hValue hRest ih =>
      simp only [List.length_append, List.length_cons]
      omega

/- No number goes on into what follows a member. -/
theorem endsNumber
    {text : List Char}
    {members : List (String × Scalar)}
    (h : MembersWritten false text members)
    (rest : List Char) :
    EndsNumber (text ++ rest) := by
  have hHead :
      ∀ (gap : List Char) (mark : Char) (cs : List Char),
        gap.all isSpace = true →
          EndsNumber [mark] →
            EndsNumber (gap ++ mark :: cs) := by
    intro gap mark cs hGap hMark c hc
    cases gap with
    | nil =>
        have hEq : mark = c := by simpa using hc
        exact hMark c (by simp [hEq])
    | cons d gap =>
        have hEq : d = c := by simpa using hc
        have hSpace : isSpace d = true := by
          simpa using List.all_eq_true.mp hGap d (by simp)
        rw [← hEq]
        simp only [isSpace, Bool.or_eq_true,
          decide_eq_true_eq] at hSpace
        rcases hSpace with ((rfl | rfl) | rfl) | rfl <;>
          decide
  have hComma : EndsNumber [','] := by
    intro c hc
    have hEq : ',' = c := by simpa using hc
    rw [← hEq]
    decide
  have hBrace : EndsNumber ['}'] := by
    intro c hc
    have hEq : '}' = c := by simpa using hc
    rw [← hEq]
    decide
  cases h with
  | nil hGap =>
      rw [List.append_assoc]
      exact hHead _ _ _ hGap hBrace
  | cons hLead hKey hBefore hAfter hValue hRest =>
      cases hLead with
      | later hGap hNext =>
          simp only [List.append_assoc, List.cons_append]
          exact hHead _ _ _ hGap hComma

end MembersWritten

end Json

end Reformat

------------------------------------------------------------
-- Reading Members
------------------------------------------------------------

namespace Reformat

namespace Json

/- What follows space is found when it is no space itself. -/
theorem skipSpace_gap
    {gap : List Char}
    {mark : Char}
    (hGap : gap.all isSpace = true)
    (hMark : isSpace mark = false)
    (cs : List Char) :
    skipSpace (gap ++ mark :: cs) = mark :: cs := by
  apply skipSpace_append hGap
  intro c hc
  have hEq : mark = c := by simpa using hc
  rw [← hEq]
  exact hMark

/- The colon after a key is passed over. -/
theorem skipColon_append
    {gap : List Char}
    (hGap : gap.all isSpace = true)
    (cs : List Char) :
    skipColon (gap ++ ':' :: cs) = .ok cs := by
  unfold skipColon
  rw [skipSpace_gap hGap rfl]
  rfl

/- The brace after the last member ends an object. -/
theorem nextMember_brace
    {gap : List Char}
    (hGap : gap.all isSpace = true)
    (first : Bool)
    (cs : List Char) :
    nextMember first (gap ++ '}' :: cs) =
      .ok (false, cs) := by
  unfold nextMember
  rw [skipSpace_gap hGap rfl]
  rfl

/- A quote after what leads to it opens a key. -/
theorem nextMember_quote
    {first : Bool}
    {lead : List Char}
    (hLead : LeadWritten first lead)
    (cs : List Char) :
    nextMember first (lead ++ '"' :: cs) =
      .ok (true, cs) := by
  unfold nextMember
  cases hLead with
  | first hGap =>
      rw [skipSpace_gap hGap rfl]
      rfl
  | @later before after hBefore hAfter =>
      have hKey :
          skipSpace (after ++ '"' :: cs) = '"' :: cs :=
        skipSpace_gap hAfter rfl cs
      rw [List.append_assoc, List.cons_append,
        skipSpace_gap hBefore rfl]
      simp [hKey]

/-
  Members of known fields are read in order, each key once;
  the last one read comes first.
-/
theorem readMembers_append
    {r : Record}
    {first : Bool}
    {text : List Char}
    {members values : List (String × Scalar)}
    {size : Nat}
    (h : MembersWritten first text members)
    (hFields :
      ∀ m ∈ members,
        ∃ f, r.field? m.1 = some f ∧ f.kind = m.2.kind)
    (hOnce : (members.map Prod.fst).Nodup)
    (hNew : ∀ m ∈ members, values.lookup m.1 = none)
    (hSize : members.length < size)
    (rest : List Char) :
    readMembers r first values size (text ++ rest) =
      .ok (members.reverse ++ values, rest) := by
  induction h generalizing values size with
  | @nil first gap hGap =>
      cases size with
      | zero => exact absurd hSize (Nat.not_lt_zero _)
      | succ size =>
          have hNext := nextMember_brace hGap first rest
          rw [List.append_assoc, List.singleton_append]
          unfold readMembers
          rw [hNext]
          rfl
  | @cons first lead key before after piece tail value
      members hLead hKey hBefore hAfter hValue hRest ih =>
      cases size with
      | zero => exact absurd hSize (Nat.not_lt_zero _)
      | succ size =>
          rw [List.forall_mem_cons] at hFields hNew
          rw [List.map_cons, List.nodup_cons] at hOnce
          rcases hFields with ⟨⟨f, hField, hKind⟩, hFields⟩
          rcases hNew with ⟨hNewKey, hNew⟩
          rcases hOnce with ⟨hKeyOnce, hOnce⟩
          have hText :
              lead ++
                    '"' ::
                      (key ++
                        '"' ::
                          (before ++
                            ':' ::
                              (after ++ (piece ++ tail)))) ++
                  rest =
                lead ++
                  '"' ::
                    (key ++
                      '"' ::
                        (before ++
                          ':' ::
                            (after ++
                              (piece ++ (tail ++ rest))))) := by
            simp only [List.append_assoc, List.cons_append]
          have hNext := nextMember_quote hLead
          have hValueRead :=
            readScalar_append hAfter hValue
              (hRest.endsNumber rest)
          have hLater :
              ∀ m ∈ members,
                ((String.ofList key, value) ::
                      values).lookup m.1 =
                  none := by
            intro m hm
            have hNe : m.1 ≠ String.ofList key := by
              intro hEq
              have hMem : m.1 ∈ members.map Prod.fst :=
                List.mem_map_of_mem hm
              rw [hEq] at hMem
              exact hKeyOnce hMem
            rw [List.lookup_cons, beq_false_of_ne hNe]
            exact hNew m hm
          have hMembers :=
            ih hFields hOnce hLater
              (Nat.lt_of_succ_lt_succ hSize)
          rw [hText]
          unfold readMembers
          rw [hNext]
          simp only [bind, Except.bind,
            stringRest_append hKey, hField, hNewKey,
            Option.isSome_none, Bool.false_eq_true, if_false,
            skipColon_append hBefore, hKind, hValueRead,
            hMembers]
          simp

/- A text that is an object gives its members' values. -/
theorem Record.read_of_written
    (r : Record)
    {before text after : List Char}
    {members : List (String × Scalar)}
    (hBefore : before.all isSpace = true)
    (hMembers : MembersWritten true text members)
    (hAfter : after.all isSpace = true)
    (hFields :
      ∀ m ∈ members,
        ∃ f, r.field? m.1 = some f ∧ f.kind = m.2.kind)
    (hOnce : (members.map Prod.fst).Nodup) :
    r.read (before ++ '{' :: (text ++ after)) =
      collect members.reverse r.fields := by
  have hOpen :
      skipSpace (before ++ '{' :: (text ++ after)) =
        '{' :: (text ++ after) :=
    skipSpace_gap hBefore rfl _
  have hSize :
      members.length < (text ++ after).length + 1 := by
    have hLe := hMembers.length_le
    rw [List.length_append]
    omega
  have hRead :
      readMembers r true [] ((text ++ after).length + 1)
          (text ++ after) =
        .ok (members.reverse ++ [], after) :=
    readMembers_append hMembers hFields hOnce
      (fun _ _ => rfl) hSize after
  have hEnd :
      ∀ values : List Scalar,
        endText values after = .ok values := by
    intro values
    have hSpace : skipSpace (after ++ []) = [] :=
      skipSpace_append hAfter (by simp)
    rw [List.append_nil] at hSpace
    unfold endText
    rw [hSpace]
  unfold Record.read
  rw [hOpen]
  simp only [hRead, bind, Except.bind, List.append_nil, hEnd]
  cases collect members.reverse r.fields <;> rfl

end Json

end Reformat
