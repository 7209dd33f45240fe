/-
  Cutting text at byte offsets.

  A text is a `String`, and every offset into it counts bytes
  of its UTF-8 form.  An offset is a boundary when it stands
  between two characters or at either end; only there can a
  text be cut in two.

  Key definitions include:
    * `Text.IsBoundary`
    * `Text.cut?`
    * `Text.replace`
    * `Text.slice`

  Main statements:
    * `Text.cut?_eq_some_iff`: a cut gives the two parts whose
      concatenation is the text.
    * `Text.replace_append`: a replacement keeps what stands
      before and after its span.
-/

------------------------------------------------------------
-- Boundaries
------------------------------------------------------------

namespace Reformat

namespace Text

/- The size of a text in bytes. -/
abbrev size (s : String) : Nat :=
  s.utf8ByteSize

/- An offset that splits no character. -/
def IsBoundary
    (s : String)
    (p : Nat) : Prop :=
  String.Pos.Raw.IsValid s ⟨p⟩

/- Boundary checking is decidable. -/
instance
    (s : String)
    (p : Nat) :
    Decidable (IsBoundary s p) := by
  unfold IsBoundary
  infer_instance

/- A boundary is where two texts meet. -/
theorem isBoundary_iff_exists
    (s : String)
    (p : Nat) :
    IsBoundary s p ↔
      ∃ a b : String, s = a ++ b ∧ size a = p := by
  unfold IsBoundary
  rw [String.Pos.Raw.isValid_iff_exists_append]
  constructor
  · rintro ⟨a, b, hs, hp⟩
    exact ⟨a, b, hs, by
      simpa [String.Pos.Raw.ext_iff] using hp.symm⟩
  · rintro ⟨a, b, hs, hp⟩
    exact ⟨a, b, hs, by
      simpa [String.Pos.Raw.ext_iff] using hp.symm⟩

/- No boundary lies past the end. -/
theorem IsBoundary.le_size
    {s : String}
    {p : Nat}
    (h : IsBoundary s p) :
    p ≤ size s := by
  obtain ⟨a, b, rfl, rfl⟩ :=
    (isBoundary_iff_exists s p).mp h
  simp [size, String.utf8ByteSize_append]

end Text

end Reformat

------------------------------------------------------------
-- Cuts
------------------------------------------------------------

namespace Reformat

namespace Text

/- The parts before and after a boundary. -/
def cut?
    (s : String)
    (p : Nat) :
    Option (String × String) :=
  if h : IsBoundary s p then
    let here := s.pos ⟨p⟩ h
    some
      ((s.sliceTo here).copy, (s.sliceFrom here).copy)
  else
    none

/- Two cuts of one text at one offset agree. -/
theorem append_inj_of_size
    {a b c d : String}
    (h : a ++ b = c ++ d)
    (hSize : size a = size c) :
    a = c ∧ b = d := by
  have hBytes := congrArg String.toByteArray h
  simp only [String.toByteArray_append] at hBytes
  have hData := congrArg ByteArray.data hBytes
  simp only [ByteArray.data_append] at hData
  obtain ⟨hLeft, hRight⟩ :=
    Array.append_inj hData hSize
  exact
    ⟨String.toByteArray_inj.mp (ByteArray.ext hLeft),
      String.toByteArray_inj.mp (ByteArray.ext hRight)⟩

/- A cut gives the parts that make up the text. -/
theorem cut?_eq_some_iff
    (s : String)
    (p : Nat)
    (a b : String) :
    cut? s p = some (a, b) ↔ s = a ++ b ∧ size a = p := by
  constructor
  · intro h
    unfold cut? at h
    split at h
    · next hp =>
      simp only [Option.some.injEq, Prod.mk.injEq] at h
      have hSplit := (s.pos ⟨p⟩ hp).splits
      rw [h.1, h.2] at hSplit
      refine ⟨hSplit.eq_append, ?_⟩
      have hSize :=
        congrArg String.Pos.Raw.byteIdx
          hSplit.offset_eq_rawEndPos
      exact hSize.symm
    · simp at h
  · rintro ⟨rfl, rfl⟩
    have hp : IsBoundary (a ++ b) (size a) :=
      (isBoundary_iff_exists _ _).mpr ⟨a, b, rfl, rfl⟩
    have hSplit :=
      ((a ++ b).pos ⟨size a⟩ hp).splits
    have hSize :
        size a = size _ :=
      congrArg String.Pos.Raw.byteIdx
        hSplit.offset_eq_rawEndPos
    obtain ⟨hLeft, hRight⟩ :=
      append_inj_of_size hSplit.eq_append hSize
    unfold cut?
    rw [dif_pos hp]
    exact congrArg some
      (Prod.ext hLeft.symm hRight.symm)

/- The text before an offset, all of it past the end. -/
def takeBytes
    (s : String)
    (p : Nat) : String :=
  ((cut? s p).map Prod.fst).getD s

/- The text after an offset, none of it past the end. -/
def dropBytes
    (s : String)
    (p : Nat) : String :=
  ((cut? s p).map Prod.snd).getD ""

/- The text between two offsets. -/
def slice
    (s : String)
    (start stop : Nat) : String :=
  takeBytes (dropBytes s start) (stop - start)

/- Put a value in the place of the bytes of a span. -/
def replace
    (s : String)
    (start stop : Nat)
    (value : String) : String :=
  takeBytes s start ++ value ++ dropBytes s stop

@[simp]
theorem takeBytes_append
    (a b : String) :
    takeBytes (a ++ b) (size a) = a := by
  have h : cut? (a ++ b) (size a) = some (a, b) :=
    (cut?_eq_some_iff _ _ _ _).mpr ⟨rfl, rfl⟩
  simp [takeBytes, h]

@[simp]
theorem dropBytes_append
    (a b : String) :
    dropBytes (a ++ b) (size a) = b := by
  have h : cut? (a ++ b) (size a) = some (a, b) :=
    (cut?_eq_some_iff _ _ _ _).mpr ⟨rfl, rfl⟩
  simp [dropBytes, h]

/- A replacement keeps what stands around its span. -/
theorem replace_append
    (a removed b value : String) :
    replace (a ++ removed ++ b) (size a)
        (size a + size removed) value =
      a ++ value ++ b := by
  unfold replace
  have hDrop := dropBytes_append (a ++ removed) b
  have hSize :
      size (a ++ removed) = size a + size removed :=
    String.utf8ByteSize_append
  rw [hSize] at hDrop
  have hAssoc :
      a ++ removed ++ b = a ++ (removed ++ b) :=
    String.append_assoc
  rw [hDrop, hAssoc, takeBytes_append]

end Text

end Reformat
