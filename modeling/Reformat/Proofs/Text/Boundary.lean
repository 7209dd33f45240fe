import Reformat.Text.Cut

/-
  Boundaries of a text and the parts that they cut it into.

  A boundary cuts a text into the bytes before it and those
  after it.  What follows a boundary has the boundaries of the
  whole text that lie there, moved to its front, so a text may
  be edited part by part.

  Main statements:
    * `Text.isBoundary_append_add`
    * `Text.isBoundary_append_of_le`
    * `Text.takeBytes_append_dropBytes`
    * `Text.isBoundary_dropBytes`
    * `Text.slice_append_dropBytes`
-/

------------------------------------------------------------
-- Boundaries
------------------------------------------------------------

namespace Reformat

namespace Text

/- Every text begins at a boundary. -/
@[simp]
theorem isBoundary_zero (s : String) :
    IsBoundary s 0 :=
  String.Pos.Raw.isValid_zero

/- Every text ends at a boundary. -/
@[simp]
theorem isBoundary_size (s : String) :
    IsBoundary s (size s) :=
  (isBoundary_iff_exists s _).mpr
    ⟨s, "", by simp, rfl⟩

/- A text put in front moves all boundaries by its size. -/
theorem isBoundary_append_add
    (a b : String)
    (p : Nat) :
    IsBoundary (a ++ b) (size a + p) ↔ IsBoundary b p := by
  constructor
  · intro h
    rcases String.Pos.Raw.isValid_append.mp h with
      hLeft | ⟨-, hRight⟩
    · have hLe : size a + p ≤ size a :=
        IsBoundary.le_size hLeft
      have hZero : p = 0 := by omega
      subst hZero
      exact isBoundary_zero b
    · have hSub :
          (⟨size a + p⟩ : String.Pos.Raw) - a = ⟨p⟩ := by
        simp [String.Pos.Raw.ext_iff, size]
      rwa [hSub] at hRight
  · intro h
    rcases (isBoundary_iff_exists b p).mp h with
      ⟨c, d, rfl, rfl⟩
    refine
      (isBoundary_iff_exists _ _).mpr
        ⟨a ++ c, d, String.append_assoc.symm, ?_⟩
    simp [size, String.utf8ByteSize_append]

/- A text put behind another leaves its boundaries. -/
theorem isBoundary_append_of_le
    {a b : String}
    {p : Nat}
    (hLe : p ≤ size a) :
    IsBoundary (a ++ b) p ↔ IsBoundary a p := by
  constructor
  · intro h
    rcases String.Pos.Raw.isValid_append.mp h with
      hLeft | ⟨hBehind, -⟩
    · exact hLeft
    · have hEnd : p = size a :=
        Nat.le_antisymm hLe hBehind
      rw [hEnd]
      exact isBoundary_size a
  · intro h
    exact String.Pos.Raw.isValid_append.mpr (.inl h)

end Text

end Reformat

------------------------------------------------------------
-- Parts
------------------------------------------------------------

namespace Reformat

namespace Text

/- A boundary cuts a text into two parts. -/
theorem takeBytes_append_dropBytes
    {s : String}
    {p : Nat}
    (h : IsBoundary s p) :
    takeBytes s p ++ dropBytes s p = s := by
  rcases (isBoundary_iff_exists s p).mp h with
    ⟨a, b, rfl, rfl⟩
  rw [takeBytes_append, dropBytes_append]

/- The part before a boundary reaches up to it. -/
theorem size_takeBytes
    {s : String}
    {p : Nat}
    (h : IsBoundary s p) :
    size (takeBytes s p) = p := by
  rcases (isBoundary_iff_exists s p).mp h with
    ⟨a, b, rfl, rfl⟩
  rw [takeBytes_append]

/- The part after a boundary is the rest. -/
theorem add_size_dropBytes
    {s : String}
    {p : Nat}
    (h : IsBoundary s p) :
    p + size (dropBytes s p) = size s := by
  rcases (isBoundary_iff_exists s p).mp h with
    ⟨a, b, rfl, rfl⟩
  rw [dropBytes_append]
  simp [size, String.utf8ByteSize_append]

/- All of a text comes after its beginning. -/
@[simp]
theorem dropBytes_zero (s : String) :
    dropBytes s 0 = s := by
  simpa using dropBytes_append "" s

/- Nothing comes after the end of a text. -/
@[simp]
theorem dropBytes_size (s : String) :
    dropBytes s (size s) = "" := by
  simpa using dropBytes_append s ""

/- Cutting further along a text that has more in front. -/
theorem dropBytes_append_add
    {a b : String}
    {p : Nat}
    (h : IsBoundary b p) :
    dropBytes (a ++ b) (size a + p) = dropBytes b p := by
  rcases (isBoundary_iff_exists b p).mp h with
    ⟨c, d, rfl, rfl⟩
  have hSize : size a + size c = size (a ++ c) := by
    simp [size, String.utf8ByteSize_append]
  rw [hSize, ← String.append_assoc, dropBytes_append,
    dropBytes_append]

/- What follows a boundary has the boundaries after it. -/
theorem isBoundary_dropBytes
    {s : String}
    {p q : Nat}
    (hp : IsBoundary s p)
    (hle : p ≤ q) :
    IsBoundary (dropBytes s p) (q - p) ↔
      IsBoundary s q := by
  rcases (isBoundary_iff_exists s p).mp hp with
    ⟨a, b, rfl, rfl⟩
  rw [dropBytes_append, ← isBoundary_append_add a b,
    Nat.add_sub_cancel' hle]

/- The bytes after a later boundary. -/
theorem dropBytes_dropBytes
    {s : String}
    {p q : Nat}
    (hp : IsBoundary s p)
    (hq : IsBoundary s q)
    (hle : p ≤ q) :
    dropBytes (dropBytes s p) (q - p) = dropBytes s q := by
  have hRest :=
    (isBoundary_dropBytes hp hle).mpr hq
  rcases (isBoundary_iff_exists s p).mp hp with
    ⟨a, b, rfl, rfl⟩
  rw [dropBytes_append] at hRest ⊢
  rw [← dropBytes_append_add (a := a) hRest,
    Nat.add_sub_cancel' hle]

/- The bytes between two boundaries and those after them. -/
theorem slice_append_dropBytes
    {s : String}
    {p q : Nat}
    (hp : IsBoundary s p)
    (hq : IsBoundary s q)
    (hle : p ≤ q) :
    slice s p q ++ dropBytes s q = dropBytes s p := by
  rw [← dropBytes_dropBytes hp hq hle]
  exact
    takeBytes_append_dropBytes
      ((isBoundary_dropBytes hp hle).mpr hq)

/- The bytes between two boundaries, counted. -/
theorem size_slice
    {s : String}
    {p q : Nat}
    (hp : IsBoundary s p)
    (hq : IsBoundary s q)
    (hle : p ≤ q) :
    size (slice s p q) = q - p :=
  size_takeBytes ((isBoundary_dropBytes hp hle).mpr hq)

end Text

end Reformat
