import Reformat.Proofs.Text.Boundary
import Reformat.Text.Utf8

/-
  Texts as the bytes that spell them.

  A text is cut and edited at byte offsets, so what is done to
  it can be said of its bytes alone: a replacement keeps those
  before and after its span.

  Key definitions include:
    * `Text.bytes`

  Main statements:
    * `Text.exists_append_of_prefix_bytes`
    * `Text.bytes_replace`
    * `Text.Utf8.decode_toByteArray_eq_ok_iff`
-/

------------------------------------------------------------
-- Bytes
------------------------------------------------------------

namespace Reformat

namespace Text

/- The bytes that spell a text. -/
def bytes (s : String) : List UInt8 :=
  s.toByteArray.data.toList

/- There are as many bytes as the size says. -/
@[simp]
theorem length_bytes (s : String) :
    (bytes s).length = size s :=
  Array.length_toList

/- The bytes of a text are those of its parts. -/
@[simp]
theorem bytes_append (a b : String) :
    bytes (a ++ b) = bytes a ++ bytes b := by
  simp [bytes]

/- The bytes before a boundary. -/
theorem bytes_takeBytes
    {s : String}
    {p : Nat}
    (h : IsBoundary s p) :
    bytes (takeBytes s p) = (bytes s).take p := by
  rcases (isBoundary_iff_exists s p).mp h with
    ⟨a, b, rfl, rfl⟩
  rw [takeBytes_append, bytes_append, ← length_bytes a,
    List.take_left]

/- The bytes after a boundary. -/
theorem bytes_dropBytes
    {s : String}
    {p : Nat}
    (h : IsBoundary s p) :
    bytes (dropBytes s p) = (bytes s).drop p := by
  rcases (isBoundary_iff_exists s p).mp h with
    ⟨a, b, rfl, rfl⟩
  rw [dropBytes_append, bytes_append, ← length_bytes a,
    List.drop_left]

/- A text is known by its bytes. -/
theorem bytes_inj
    {a b : String}
    (h : bytes a = bytes b) :
    a = b := by
  apply String.toByteArray_inj.mp
  apply ByteArray.ext
  exact Array.toList_inj.mp h

/-
  Bytes at the front of a text that spell a text themselves
  cut it between two characters.
-/
theorem exists_append_of_prefix_bytes
    {s t : String}
    (h : bytes s <+: bytes t) :
    ∃ u, t = s ++ u := by
  have hLength : size s ≤ size t := by
    have hLe := h.length_le
    simpa using hLe
  have hFront :
      t.toByteArray.extract 0 (size s) = s.toByteArray := by
    have hTake := List.prefix_iff_eq_take.mp h
    rw [length_bytes] at hTake
    apply ByteArray.ext
    apply Array.toList_inj.mp
    simpa [bytes] using hTake.symm
  have hBoundary : IsBoundary t (size s) := by
    apply
      String.Pos.Raw.isValid_iff_isValidUTF8_extract_zero.mpr
    refine ⟨hLength, ?_⟩
    change (t.toByteArray.extract 0 (size s)).IsValidUTF8
    rw [hFront]
    exact s.isValidUTF8
  rcases (isBoundary_iff_exists t _).mp hBoundary with
    ⟨a, u, rfl, hSize⟩
  have hEq : bytes a = bytes s := by
    apply List.IsPrefix.eq_of_length
    · apply List.prefix_of_prefix_length_le _ h
      · simp [hSize]
      · rw [bytes_append]
        exact List.prefix_append _ _
    · simp [hSize]
  exact ⟨u, by rw [bytes_inj hEq]⟩

/-
  Bytes that end within the last character of the front of a
  text, or before it, leave only characters before that.
-/
theorem prefix_of_prefix_bytes
    {s front rest : String}
    {first : List Char}
    {last : Char}
    (hPrefix : bytes s <+: bytes (front ++ rest))
    (hShort : size s < size front)
    (hFront : front.toList = first ++ [last]) :
    s.toList <+: first := by
  have hCut : bytes s <+: bytes front := by
    apply List.prefix_of_prefix_length_le hPrefix
    · rw [bytes_append]
      exact List.prefix_append _ _
    · simpa using Nat.le_of_lt hShort
  rcases exists_append_of_prefix_bytes hCut with ⟨u, rfl⟩
  have hChars : s.toList <+: first ++ [last] := by
    rw [← hFront, String.toList_append]
    exact List.prefix_append _ _
  rcases List.prefix_concat_iff.mp hChars with hAll | hFirst
  · have hSame : s = s ++ u := by
      apply String.toList_inj.mp
      rw [hAll, hFront]
    rw [← hSame] at hShort
    exact absurd hShort (Nat.lt_irrefl _)
  · exact hFirst

/- A replacement keeps the bytes around its span. -/
theorem bytes_replace
    {s : String}
    {start stop : Nat}
    (hStart : IsBoundary s start)
    (hStop : IsBoundary s stop)
    (value : String) :
    bytes (replace s start stop value) =
      (bytes s).take start ++ bytes value ++
        (bytes s).drop stop := by
  unfold replace
  rw [bytes_append, bytes_append, bytes_takeBytes hStart,
    bytes_dropBytes hStop]

/- The size of a text with a span replaced. -/
theorem size_replace
    {s : String}
    {start stop : Nat}
    (hStart : IsBoundary s start)
    (hStop : IsBoundary s stop)
    (value : String) :
    size (replace s start stop value) + stop =
      start + size value + size s := by
  have hFront := size_takeBytes hStart
  have hBack := add_size_dropBytes hStop
  simp only [replace, size, String.utf8ByteSize_append]
    at hFront hBack ⊢
  omega

end Text

end Reformat

------------------------------------------------------------
-- Reading Bytes
------------------------------------------------------------

namespace Reformat

namespace Text.Utf8

/- Bytes are read as the text that they are the bytes of. -/
theorem decode_toByteArray_eq_ok_iff
    (bs : List UInt8)
    (s : String) :
    decode bs.toByteArray = .ok s ↔ bytes s = bs := by
  rw [decode_eq_ok_iff]
  constructor
  · intro h
    unfold bytes
    rw [h, List.toList_data_toByteArray]
  · intro h
    apply ByteArray.ext
    apply Array.toList_inj.mp
    rw [List.toList_data_toByteArray]
    exact h

end Text.Utf8

end Reformat
