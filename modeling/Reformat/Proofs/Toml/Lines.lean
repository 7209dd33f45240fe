import Reformat.Proofs.Toml.Values

/-
  Files with one entry on each line are read as the tables
  that they were written for.

  Key definitions include:
    * `Toml.isBareKey`
    * `Toml.EntriesWritten`
    * `Toml.entryLines`

  Main statements:
    * `Toml.assignment?_writeEntry`
    * `Toml.Progress.line?_writeEntry`
    * `Toml.Progress.lines?_of_written`
    * `Toml.read?_of_written`
-/

------------------------------------------------------------
-- Keys
------------------------------------------------------------

namespace Reformat

namespace Toml

/- A key that needs no quotes. -/
def isBareKey (key : String) : Bool :=
  !key.toList.isEmpty && key.toList.all isKeyChar

/- A character of a key is none that no key has. -/
theorem ne_of_isKeyChar
    {c mark : Char}
    (hKey : isKeyChar c = true)
    (hMark : isKeyChar mark = false) :
    c ≠ mark := by
  rintro rfl
  rw [hMark] at hKey
  cases hKey

/- A key without quotes has a first character. -/
theorem exists_cons_of_isBareKey
    {key : String}
    (hKey : isBareKey key = true) :
    ∃ first more,
      key.toList = first :: more ∧
        isKeyChar first = true := by
  simp only [isBareKey, Bool.and_eq_true] at hKey
  rcases hKey with ⟨hSome, hAll⟩
  cases hText : key.toList with
  | nil =>
      rw [hText] at hSome
      cases hSome
  | cons first more =>
      rw [hText, List.all_cons, Bool.and_eq_true] at hAll
      exact ⟨first, more, rfl, hAll.1⟩

/- There is no space in front of a key. -/
theorem skipSpace_of_isBareKey
    {key : String}
    (hKey : isBareKey key = true)
    (rest : List Char) :
    skipSpace (key.toList ++ rest) = key.toList ++ rest := by
  rcases exists_cons_of_isBareKey hKey with
    ⟨first, more, hText, hFirst⟩
  have hBlank : first ≠ ' ' := ne_of_isKeyChar hFirst rfl
  have hTab : first ≠ '\t' := ne_of_isKeyChar hFirst rfl
  have hSpace : isSpace first = false := by
    simp [isSpace, hBlank, hTab]
  rw [hText, List.cons_append, skipSpace,
    List.dropWhile_cons, hSpace, if_neg Bool.false_ne_true]

/- A key is read up to the space after it. -/
theorem key?_of_isBareKey
    {key : String}
    (hKey : isBareKey key = true)
    (rest : List Char) :
    key? (key.toList ++ ' ' :: rest) =
      some (key, ' ' :: rest) := by
  have hAll : ∀ c ∈ key.toList, isKeyChar c = true := by
    simp only [isBareKey, Bool.and_eq_true,
      List.all_eq_true] at hKey
    exact hKey.2
  have hEnd :
      ∀ c ∈ (' ' :: rest).head?, isKeyChar c = false := by
    rintro c ⟨⟩
    rfl
  have hTake := Text.takeWhile_run hAll hEnd
  have hDrop := Text.dropWhile_run hAll hEnd
  rcases exists_cons_of_isBareKey hKey with
    ⟨first, more, hText, hFirst⟩
  have hSome : key.toList.isEmpty = false := by
    rw [hText]
    rfl
  unfold key?
  split
  · next heq =>
    rw [hText] at heq
    exact
      absurd (List.cons.inj heq).1
        (ne_of_isKeyChar hFirst rfl)
  · next heq =>
    rw [hText] at heq
    exact
      absurd (List.cons.inj heq).1
        (ne_of_isKeyChar hFirst rfl)
  · simp only [hTake, hDrop, hSome, String.ofList_toList]
    rfl

/- A key in front of an equals sign is a path of its own. -/
theorem path?_of_isBareKey
    {key : String}
    (hKey : isBareKey key = true)
    (rest : List Char) :
    path? (key.toList ++ ' ' :: '=' :: rest) =
      some (⟨[], key⟩, '=' :: rest) := by
  have hRead := key?_of_isBareKey hKey ('=' :: rest)
  unfold path? maxKeys
  rw [pathWithin?, skipSpace_of_isBareKey hKey, hRead]
  rfl

end Toml

end Reformat

------------------------------------------------------------
-- Lines
------------------------------------------------------------

namespace Reformat

namespace Toml

variable {key text : String}
variable {v : Value}

/- The line of an entry, character by character. -/
theorem toList_writeEntry_append
    (key text : String)
    (rest : List Char) :
    (writeEntry key text).toList ++ rest =
      key.toList ++
        ' ' :: '=' :: ' ' :: (text.toList ++ '\n' :: rest) := by
  simp [writeEntry]

/- An entry is read up to the end of its line. -/
theorem assignment?_writeEntry
    (hKey : isBareKey key = true)
    (hValue : ValueWritten text v)
    (rest : List Char) :
    assignment? ((writeEntry key text).toList ++ rest) =
      some (⟨[], key⟩, v, '\n' :: rest) := by
  rcases hValue.head with ⟨first, more, hText, hFirst⟩
  have hRead := hValue.read ('\n' :: rest) (by simp [EndsValue])
  have hSkip :
      skipSpace (' ' :: (text.toList ++ '\n' :: rest)) =
        text.toList ++ '\n' :: rest := by
    have hSpace : isSpace ' ' = true := rfl
    rw [hText, List.cons_append, skipSpace,
      List.dropWhile_cons_of_pos hSpace, List.dropWhile_cons,
      hFirst, if_neg Bool.false_ne_true]
  have hSign :
      skipSpace ('=' :: ' ' :: (text.toList ++ '\n' :: rest)) =
        '=' :: ' ' :: (text.toList ++ '\n' :: rest) := rfl
  rw [toList_writeEntry_append]
  unfold assignment? assignmentWith?
  simp only [path?_of_isBareKey hKey, Function.comp_apply,
    Option.bind_eq_bind, Option.bind_some, hSign, after?,
    if_true, hSkip, hRead]
  rfl

namespace Progress

/- An entry with a new key is added to a file without headers. -/
theorem insert?_of_new
    {t : Table}
    (hNew : t.lookup key = none)
    (v : Value) :
    insert? ⟨t, []⟩ ⟨[], key⟩ v =
      some ⟨t ++ [(key, v)], []⟩ := by
  have hAdd :
      t.insertAt? [] [] key v = some (t ++ [(key, v)]) := by
    simp [Table.insertAt?, Table.insert?, Table.within?,
      Table.assign?, hNew]
  rw [insert?, hAdd]
  rfl

/- A line that a key begins is read as an entry. -/
theorem statement?_of_isKeyChar
    {first : Char}
    (hFirst : isKeyChar first = true)
    (p : Progress)
    (cs : List Char) :
    p.statement? (first :: cs) =
      (assignment? (first :: cs)).bind fun found =>
        (p.insert? found.1 found.2.1).map (·, found.2.2) := by
  have hOpen : first ≠ '[' := ne_of_isKeyChar hFirst rfl
  unfold statement?
  split
  · next heq => exact absurd (List.cons.inj heq).1 hOpen
  · next heq => exact absurd (List.cons.inj heq).1 hOpen
  · cases assignment? (first :: cs) with
    | none => rfl
    | some found =>
        simp only [Option.bind_eq_bind, Option.bind_some]
        cases p.insert? found.1 found.2.1 <;> rfl

/- A line with an entry is read up to its end. -/
theorem line?_writeEntry
    (hKey : isBareKey key = true)
    (hValue : ValueWritten text v)
    {t : Table}
    (hNew : t.lookup key = none)
    (rest : List Char) :
    line? ⟨t, []⟩ ((writeEntry key text).toList ++ rest) =
      some (⟨t ++ [(key, v)], []⟩, '\n' :: rest) := by
  have hRead := assignment?_writeEntry hKey hValue rest
  have hInsert := insert?_of_new hNew v
  rw [toList_writeEntry_append] at hRead ⊢
  unfold line?
  rw [skipSpace_of_isBareKey hKey]
  rcases exists_cons_of_isBareKey hKey with
    ⟨first, more, hText, hFirst⟩
  rw [hText, List.cons_append] at hRead ⊢
  have hComment : first ≠ '#' := ne_of_isKeyChar hFirst rfl
  have hFeed : first ≠ '\n' := ne_of_isKeyChar hFirst rfl
  have hReturn : first ≠ '\r' := ne_of_isKeyChar hFirst rfl
  have hLine :
      ∀ cs, lineBreak? (first :: cs) = none := by
    intro cs
    simp [lineBreak?, hFeed, hReturn]
  have hEnd :
      skipComment? (skipSpace ('\n' :: rest)) =
        some ('\n' :: rest) := rfl
  simp only [List.isEmpty_cons, List.head?_cons,
    Option.some.injEq, hComment, hLine, Option.isSome_none,
    decide_false, Bool.or_self, Bool.false_eq_true, if_false,
    statement?_of_isKeyChar hFirst, hRead, hInsert, hEnd,
    Option.bind_eq_bind, Option.bind_some, Option.map_some]
  rfl

end Progress

end Toml

end Reformat

------------------------------------------------------------
-- Files
------------------------------------------------------------

namespace Reformat

namespace Toml

/- Entries with keys without quotes, and their table. -/
inductive EntriesWritten :
    List (String × String) → Table → Prop
  | nil : EntriesWritten [] []
  | cons
      {key text : String}
      {v : Value}
      {es : List (String × String)}
      {t : Table}
      (hKey : isBareKey key = true)
      (hValue : ValueWritten text v)
      (hRest : EntriesWritten es t) :
      EntriesWritten ((key, text) :: es) ((key, v) :: t)

/- An entry alone is its own table. -/
theorem EntriesWritten.singleton
    {key text : String}
    {v : Value}
    (hKey : isBareKey key = true)
    (hValue : ValueWritten text v) :
    EntriesWritten [(key, text)] [(key, v)] :=
  EntriesWritten.cons hKey hValue EntriesWritten.nil

/- Entries may be followed by others. -/
theorem EntriesWritten.append
    {es more : List (String × String)}
    {t others : Table}
    (hWritten : EntriesWritten es t)
    (hMore : EntriesWritten more others) :
    EntriesWritten (es ++ more) (t ++ others) := by
  induction hWritten with
  | nil => exact hMore
  | cons hKey hValue _ ih =>
      exact EntriesWritten.cons hKey hValue ih

/- Each entry on a line of its own. -/
def entryLines (es : List (String × String)) : List Char :=
  es.flatMap fun e => (writeEntry e.1 e.2).toList

/- The line of the first entry comes first. -/
theorem entryLines_cons
    (e : String × String)
    (es : List (String × String)) :
    entryLines (e :: es) =
      (writeEntry e.1 e.2).toList ++ entryLines es := by
  unfold entryLines
  rw [List.flatMap_cons]

variable {es : List (String × String)}
variable {t : Table}

/- Each line has a character at least. -/
theorem length_le_entryLines
    (es : List (String × String)) :
    es.length ≤ (entryLines es).length := by
  induction es with
  | nil => simp
  | cons e es ih =>
      have hSome : 0 < (writeEntry e.1 e.2).toList.length := by
        rw [← List.append_nil (writeEntry e.1 e.2).toList,
          toList_writeEntry_append]
        apply List.length_pos_of_mem
        exact List.mem_append_right _ List.mem_cons_self
      rw [entryLines_cons, List.length_append,
        List.length_cons]
      omega

/- Entries are added in their order to what was read before. -/
theorem Progress.lines?_of_written
    (hWritten : EntriesWritten es t)
    {size : Nat}
    (hSize : es.length < size)
    {before : Table}
    (hKeys : ((before ++ t).map Prod.fst).Nodup) :
    lines? size ⟨before, []⟩ (entryLines es) =
      some ⟨before ++ t, []⟩ := by
  induction hWritten generalizing size before with
  | nil =>
      rcases Nat.exists_eq_add_one.mpr hSize with
        ⟨size, rfl⟩
      rw [List.append_nil]
      rfl
  | @cons key text v es t hKey hValue hRest ih =>
      rcases Nat.exists_eq_add_one.mpr
          (Nat.zero_lt_of_lt hSize) with
        ⟨size, rfl⟩
      have hNew : before.lookup key = none := by
        rw [List.map_append, List.nodup_append] at hKeys
        rw [List.lookup_eq_none_iff]
        intro e he
        have hNe : e.1 ≠ key :=
          hKeys.2.2 e.1 (List.mem_map_of_mem he) key
            List.mem_cons_self
        simpa using hNe.symm
      have hFew : es.length < size := by
        rw [List.length_cons] at hSize
        omega
      have hMore := @ih size hFew (before ++ [(key, v)])
      rw [List.append_assoc, List.singleton_append] at hMore
      rw [entryLines_cons, lines?,
        line?_writeEntry hKey hValue hNew]
      exact hMore hKeys

/- Without a mark in front, a file is read line by line. -/
theorem read?_of_head?_ne
    {text : String}
    (hMark : text.toList.head? ≠ some byteOrderMark) :
    read? text =
      (Progress.lines? (text.toList.length + 1) {}
        text.toList).map (·.table) := by
  unfold read?
  cases hText : text.toList with
  | nil => rfl
  | cons c cs =>
      have hc : c ≠ byteOrderMark := by
        rintro rfl
        exact hMark (by rw [hText]; rfl)
      simp only [if_neg hc]

/- A file of entries is read as their table. -/
theorem read?_of_written
    (hWritten : EntriesWritten es t)
    (hKeys : (t.map Prod.fst).Nodup) :
    read?
        (String.join
          (es.map fun e => writeEntry e.1 e.2)) =
      some t := by
  have hText :
      (String.join
          (es.map fun e => writeEntry e.1 e.2)).toList =
        entryLines es := by
    rw [String.toList_join, List.flatMap_map]
    rfl
  have hMark : (entryLines es).head? ≠ some byteOrderMark := by
    cases hWritten with
    | nil => simp [entryLines]
    | @cons key text v es t hKey hValue hRest =>
        rcases exists_cons_of_isBareKey hKey with
          ⟨first, more, hKeyText, hFirst⟩
        rw [entryLines_cons, toList_writeEntry_append,
          hKeyText]
        intro hHead
        exact
          ne_of_isKeyChar hFirst rfl (Option.some.inj hHead)
  have hSize : es.length < (entryLines es).length + 1 :=
    Nat.lt_succ_of_le (length_le_entryLines es)
  have hLines :
      Progress.lines? ((entryLines es).length + 1) {}
          (entryLines es) =
        some ⟨t, []⟩ :=
    Progress.lines?_of_written hWritten hSize hKeys
  rw [← hText] at hMark
  rw [read?_of_head?_ne hMark, hText, hLines]
  rfl

end Toml

end Reformat
