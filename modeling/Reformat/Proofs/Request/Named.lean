import Reformat.Proofs.Text.Natural
import Reformat.Request.Command

/-
  What the arguments of a request name.

  The spans to format come last, behind the cursor, each as an
  offset and a length in decimal.  They are read back as they
  were, whatever the extra arguments and the path look like,
  and all else that arguments hold is known from them once it
  is known how many of them are extra.

  Key definitions include:
    * `Dialect.valueOf?`
    * `Dialect.readPairs?`
    * `Dialect.afterCursor`
    * `Dialect.named`

  Main statements:
    * `Dialect.valueOf?_append`
    * `Dialect.readPairs?_afterCursor_arguments`
    * `Dialect.front_eq_of_arguments_eq`
    * `Dialect.request_of_arguments`
-/

------------------------------------------------------------
-- Numbers
------------------------------------------------------------

namespace Reformat

namespace Dialect

/- The number that stands behind a name, in decimal. -/
def valueOf? (name argument : String) : Option Nat := do
  let digits ← Text.after? name argument.toList
  if digits = [] then none
  else Text.Natural.ofDigits? 10 Text.Natural.digitValue? digits

/- A number behind a name is read back. -/
theorem valueOf?_append
    (name : String)
    (n : Nat) :
    valueOf? name (name ++ toString n) = some n := by
  have hAfter :
      Text.after? name (name ++ toString n).toList =
        some (Text.Natural.digits n) := by
    rw [Text.after?_eq_some_iff, String.toList_append]
    exact congrArg (name.toList ++ ·) String.toList_ofList
  have hSome : Text.Natural.digits n ≠ [] :=
    Nat.toDigits_ne_nil
  have hValue :
      Nat.ofDigitChars 10 (Text.Natural.digits n) 0 = n :=
    Nat.ofDigitChars_ten_toDigits
  unfold valueOf?
  rw [hAfter, Option.bind_eq_bind, Option.bind_some,
    if_neg hSome,
    Text.Natural.ofDigits?_eq fun _ =>
      Text.Natural.isDigit_of_mem_digits,
    hValue]

/- So a name and a number make the number out. -/
theorem eq_of_append_toString_eq
    {name : String}
    {m n : Nat}
    (hSame : name ++ toString m = name ++ toString n) :
    m = n := by
  have hRead := valueOf?_append name m
  rw [hSame, valueOf?_append] at hRead
  exact (Option.some.inj hRead).symm

end Dialect

end Reformat

------------------------------------------------------------
-- Pairs
------------------------------------------------------------

namespace Reformat

namespace Dialect

/- Offsets and lengths that arguments name, two by two. -/
def readPairs? : List String → Option (List (Nat × Nat))
  | [] => some []
  | [_] => none
  | offset :: length :: rest => do
      let start ← valueOf? "-offset=" offset
      let size ← valueOf? "-length=" length
      let pairs ← readPairs? rest
      pure ((start, size) :: pairs)

/- The spans that a scope is told with. -/
def named
    (d : Dialect) : Scope → List Span
  | .wholeFile size =>
      if d.wholeFileOffsets then [⟨0, size⟩] else []
  | .spans rs => rs

/- Each of them has its arguments. -/
theorem scopeArguments_eq
    (d : Dialect)
    (scope : Scope) :
    d.scopeArguments scope =
      (d.named scope).flatMap Span.arguments := by
  cases scope with
  | spans rs => rfl
  | wholeFile size =>
      cases hTold : d.wholeFileOffsets with
      | false =>
          simp only [scopeArguments, named, hTold,
            Bool.false_eq_true, if_false, List.flatMap_nil]
      | true =>
          simp only [scopeArguments, named, hTold, if_true,
            List.flatMap_cons, List.flatMap_nil,
            List.append_nil]

/- The arguments of a span are read back. -/
theorem readPairs?_arguments_append
    (r : Span)
    (rest : List String) :
    readPairs? (r.arguments ++ rest) =
      (readPairs? rest).map
        ((r.start, r.stop - r.start) :: ·) := by
  change
    readPairs?
        (("-offset=" ++ toString r.start) ::
          ("-length=" ++ toString r.length) :: rest) =
      _
  rw [readPairs?, valueOf?_append, valueOf?_append]
  cases readPairs? rest with
  | none => rfl
  | some pairs => rfl

/- So are those of any number of spans. -/
theorem readPairs?_flatMap (rs : List Span) :
    readPairs? (rs.flatMap Span.arguments) =
      some (rs.map fun r => (r.start, r.stop - r.start)) := by
  induction rs with
  | nil => rfl
  | cons r rs ih =>
      rw [List.flatMap_cons, readPairs?_arguments_append, ih]
      rfl

/- A start and a length make out a span that is not
  reversed. -/
theorem eq_of_pairs_eq
    {rs rs' : List Span}
    (hOrder : ∀ r ∈ rs, r.start ≤ r.stop)
    (hOrder' : ∀ r ∈ rs', r.start ≤ r.stop)
    (hSame :
      (rs.map fun r => (r.start, r.stop - r.start)) =
        rs'.map fun r => (r.start, r.stop - r.start)) :
    rs = rs' := by
  have hBack :
      ∀ {qs : List Span},
        (∀ r ∈ qs, r.start ≤ r.stop) →
          (qs.map fun r => (r.start, r.stop - r.start)).map
              (fun p => (⟨p.1, p.1 + p.2⟩ : Span)) =
            qs := by
    intro qs hqs
    rw [List.map_map]
    conv => rhs; rw [← List.map_id qs]
    apply List.map_congr_left
    intro r hr
    simp only [Function.comp_apply, id_eq,
      Nat.add_sub_cancel' (hqs r hr)]
  rw [← hBack hOrder, ← hBack hOrder', hSame]

end Dialect

end Reformat

------------------------------------------------------------
-- Behind The Cursor
------------------------------------------------------------

namespace Reformat

namespace Dialect

/- An argument that tells a cursor. -/
def isCursor (argument : String) : Bool :=
  (Text.after? "-cursor=" argument.toList).isSome

/- The arguments behind the last one that tells a cursor. -/
def afterCursor (arguments : List String) : List String :=
  (arguments.reverse.takeWhile
    fun argument => !isCursor argument).reverse

/- What tells a span tells no cursor. -/
theorem isCursor_of_mem_arguments
    {r : Span}
    {argument : String}
    (hMem : argument ∈ r.arguments) :
    isCursor argument = false := by
  have hOther :
      ∀ (rest : List Char) (name : String),
        name ∈ ["-offset=", "-length="] →
          Text.after? "-cursor=" (name.toList ++ rest) =
            none := by
    intro rest name hName
    simp only [List.mem_cons, List.not_mem_nil, or_false]
      at hName
    rcases hName with rfl | rfl
    · rfl
    · rfl
  have hArguments :
      argument = "-offset=" ++ toString r.start ∨
        argument = "-length=" ++ toString r.length := by
    unfold Span.arguments at hMem
    rw [List.mem_cons, List.mem_singleton] at hMem
    exact hMem
  unfold isCursor
  rcases hArguments with rfl | rfl
  · rw [String.toList_append, hOther _ _ (by simp)]
    rfl
  · rw [String.toList_append, hOther _ _ (by simp)]
    rfl

/- What follows the last cursor is found again. -/
theorem afterCursor_append
    {cursor : String}
    {behind : List String}
    (hCursor : isCursor cursor = true)
    (hBehind : ∀ argument ∈ behind, isCursor argument = false)
    (front : List String) :
    afterCursor (front ++ cursor :: behind) = behind := by
  unfold afterCursor
  have hTake :
      ∀ argument ∈ behind.reverse,
        (!isCursor argument) = true := by
    intro argument hMem
    rw [hBehind argument (List.mem_reverse.mp hMem)]
    rfl
  rw [List.reverse_append, List.reverse_cons,
    List.append_assoc, List.singleton_append,
    List.takeWhile_append_of_pos hTake,
    List.takeWhile_cons_of_neg (by simp [hCursor]),
    List.append_nil, List.reverse_reverse]

variable (d : Dialect)
variable (r : Request)

/- The arguments of a request up to the path. -/
def front : List String :=
  r.extraArguments ++ "-style=file" ::
    (d.formArguments ++ ["-assume-filename=" ++ r.path])

/- Behind them are the cursor and the spans. -/
theorem arguments_eq :
    d.arguments r =
      d.front r ++ ("-cursor=" ++ toString r.cursor) ::
        (d.named r.scope).flatMap Span.arguments := by
  unfold arguments front
  rw [scopeArguments_eq]
  simp only [List.append_assoc, List.cons_append,
    List.nil_append]
  rfl

/- The spans of a request are read back from behind the
  cursor. -/
theorem readPairs?_afterCursor_arguments :
    readPairs? (afterCursor (d.arguments r)) =
      some
        ((d.named r.scope).map fun q =>
          (q.start, q.stop - q.start)) := by
  have hCursor :
      isCursor ("-cursor=" ++ toString r.cursor) = true := by
    unfold isCursor
    rw [(Text.after?_eq_some_iff _ _ _).mpr
      String.toList_append]
    rfl
  have hBehind :
      ∀ argument ∈
        (d.named r.scope).flatMap Span.arguments,
        isCursor argument = false := by
    intro argument hMem
    rcases List.mem_flatMap.mp hMem with ⟨q, -, hArgument⟩
    exact isCursor_of_mem_arguments hArgument
  rw [arguments_eq, afterCursor_append hCursor hBehind,
    readPairs?_flatMap]

end Dialect

end Reformat

------------------------------------------------------------
-- Requests
------------------------------------------------------------

namespace Reformat

namespace Dialect

variable {d : Dialect}
variable {r r' : Request}

/- The same arguments, as many of them extra, have the same
  extra ones, path and cursor. -/
theorem front_eq_of_arguments_eq
    (hCount :
      r.extraArguments.length = r'.extraArguments.length)
    (hSame : d.arguments r = d.arguments r') :
    r.extraArguments = r'.extraArguments ∧
      r.path = r'.path ∧ r.cursor = r'.cursor := by
  rw [arguments_eq, arguments_eq] at hSame
  unfold front at hSame
  simp only [List.append_assoc, List.cons_append,
    List.nil_append] at hSame
  rcases List.append_inj hSame hCount with ⟨hExtra, hRest⟩
  have hRest :=
    List.append_cancel_left (List.cons.inj hRest).2
  rcases List.cons.inj hRest with ⟨hPath, hRest⟩
  have hCursor := (List.cons.inj hRest).1
  exact
    ⟨hExtra, (String.append_right_inj _).mp hPath,
      eq_of_append_toString_eq hCursor⟩

/-
  Two requests with the same arguments, as many of them extra,
  agree on these, on the path and on the cursor.  What is told
  behind the cursor is read back as the spans of either one:
  those of a restricted request in order, and all of a text
  where it is told at all.  So restricted requests with equal
  arguments are for the same spans, unless these are reversed,
  and where all of a text is not told, no other request is
  taken for one for all of it.
-/
theorem request_of_arguments
    (hCount :
      r.extraArguments.length = r'.extraArguments.length)
    (hSame : d.arguments r = d.arguments r') :
    (r.extraArguments = r'.extraArguments ∧
        r.path = r'.path ∧ r.cursor = r'.cursor) ∧
      (∀ q ∈ [r, r'],
        let read :=
          readPairs? (afterCursor (d.arguments q))
        (∀ rs,
            q.scope = .spans rs →
              read =
                some
                  (rs.map fun s =>
                    (s.start, s.stop - s.start))) ∧
          ∀ size,
            q.scope = .wholeFile size →
              read =
                some
                  (if d.wholeFileOffsets then [(0, size)]
                  else [])) ∧
      (∀ rs rs',
        r.scope = .spans rs →
          r'.scope = .spans rs' →
            (∀ s ∈ rs, s.start ≤ s.stop) →
              (∀ s ∈ rs', s.start ≤ s.stop) → rs = rs') ∧
      ∀ rs size,
        d.wholeFileOffsets = false →
          r.scope = .spans rs →
            rs ≠ [] → r'.scope ≠ .wholeFile size := by
  have hPairs :=
    congrArg (fun a => readPairs? (afterCursor a)) hSame
  simp only [readPairs?_afterCursor_arguments,
    Option.some.injEq] at hPairs
  refine
    ⟨front_eq_of_arguments_eq hCount hSame, ?_, ?_, ?_⟩
  · intro q hq
    simp only [readPairs?_afterCursor_arguments]
    refine ⟨?_, ?_⟩
    · intro rs hScope
      rw [hScope]
      rfl
    · intro size hScope
      rw [hScope]
      cases hTold : d.wholeFileOffsets with
      | false =>
          simp only [named, hTold, Bool.false_eq_true,
            if_false, List.map_nil]
      | true =>
          simp only [named, hTold, if_true, List.map_cons,
            List.map_nil, Nat.sub_zero]
  · intro rs rs' hScope hScope' hOrder hOrder'
    rw [hScope, hScope'] at hPairs
    exact eq_of_pairs_eq hOrder hOrder' hPairs
  · intro rs size hFlag hScope hSome hWhole
    rw [hScope, hWhole] at hPairs
    simp only [named, hFlag, Bool.false_eq_true, if_false,
      List.map_nil, List.map_eq_nil_iff] at hPairs
    exact hSome hPairs

/-
  Extra arguments and a path that look like other arguments,
  in a request for all of a text and in one for its span.
-/
theorem request_of_arguments_sample :
    let d : Dialect := { wholeFileOffsets := true }
    let r : Request :=
      { path := "-cursor=3", cursor := 7,
        scope := .spans [⟨0, 4⟩], binary := "f",
        extraArguments := ["-cursor=9", "-offset=1"] }
    let r' := { r with scope := .wholeFile 4 }
    r.extraArguments.length = r'.extraArguments.length ∧
      d.arguments r = d.arguments r' ∧
        readPairs? (afterCursor (d.arguments r)) =
            some [(0, 4)] ∧
          readPairs? (afterCursor (d.arguments r')) =
            some [(0, 4)] := by
  intro d r r'
  have hSame : d.arguments r = d.arguments r' := rfl
  rcases @request_of_arguments d r r' rfl hSame with
    ⟨-, hRead, -⟩
  exact
    ⟨rfl, hSame, (hRead r (by simp)).1 [⟨0, 4⟩] rfl,
      (hRead r' (by simp)).2 4 rfl⟩

end Dialect

end Reformat
