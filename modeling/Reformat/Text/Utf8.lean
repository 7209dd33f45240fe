/-
  Reading bytes as UTF-8 text.

  Bytes that are no text have a first fault: the place where
  the longest readable beginning ends, and the number of bytes
  there that cannot be part of any character.  When the bytes
  stop in the middle of a character there is no such number.

  Key definitions include:
    * `Text.Utf8.front`
    * `Text.Utf8.Fault`
    * `Text.Utf8.decode`
    * `Text.Utf8.decodeLossy`
-/

------------------------------------------------------------
-- Characters In Bytes
------------------------------------------------------------

namespace Reformat

namespace Text.Utf8

/- What stands at the front of some bytes. -/
inductive Front
  | whole (width : Nat)
  | broken (width : Nat)
  | unfinished
deriving DecidableEq

/- A byte that continues a character. -/
def isContinuation (b : UInt8) : Bool :=
  0x80 ≤ b && b ≤ 0xBF

/-
  The second bytes allowed after a first byte, so that each
  character has one form and no surrogate has any.
-/
def isSecond
    (first second : UInt8) : Bool :=
  if first = 0xE0 then 0xA0 ≤ second && second ≤ 0xBF
  else if first = 0xED then 0x80 ≤ second && second ≤ 0x9F
  else if first = 0xF0 then 0x90 ≤ second && second ≤ 0xBF
  else if first = 0xF4 then 0x80 ≤ second && second ≤ 0x8F
  else isContinuation second

/- The bytes of a character, by its first byte. -/
def width? (first : UInt8) : Option Nat :=
  if first < 0x80 then some 1
  else if 0xC2 ≤ first && first ≤ 0xDF then some 2
  else if 0xE0 ≤ first && first ≤ 0xEF then some 3
  else if 0xF0 ≤ first && first ≤ 0xF4 then some 4
  else none

/- Read continuations after a beginning of some bytes. -/
def continued
    (width : Nat) :
    Nat → List UInt8 → Front
  | 0, _ => .whole width
  | _ + 1, [] => .unfinished
  | n + 1, b :: bytes =>
      if isContinuation b then
        continued (width + 1) n bytes
      else
        .broken width

/- The character, or the fault, at the front. -/
def front
    (first : UInt8)
    (bytes : List UInt8) : Front :=
  match width? first, bytes with
  | none, _ => .broken 1
  | some 1, _ => .whole 1
  | some _, [] => .unfinished
  | some n, second :: bytes =>
      if isSecond first second then
        continued 2 (n - 2) bytes
      else
        .broken 1

end Text.Utf8

end Reformat

------------------------------------------------------------
-- Faults
------------------------------------------------------------

namespace Reformat

namespace Text.Utf8

/-
  Where bytes stop being text: the size of the text before
  it and, unless the bytes just end too soon, how many bytes
  are wrong.
-/
structure Fault where
  validUpTo : Nat
  wrong : Option Nat
deriving DecidableEq

/- The first fault of some bytes. -/
def firstFault?
    (here : Nat) :
    List UInt8 → Option Fault
  | [] => none
  | first :: bytes =>
      match front first bytes with
      | .whole n =>
          firstFault? (here + 1 + (n - 1))
            (bytes.drop (n - 1))
      | .broken n => some ⟨here, some n⟩
      | .unfinished => some ⟨here, none⟩
termination_by bytes => bytes.length
decreasing_by
  simp only [List.length_drop, List.length_cons]
  omega

/- The fault in words. -/
def Fault.message (f : Fault) : String :=
  match f.wrong with
  | some n =>
      s!"invalid utf-8 sequence of {n} bytes from index " ++
        s!"{f.validUpTo}"
  | none =>
      s!"incomplete utf-8 byte sequence from index " ++
        s!"{f.validUpTo}"

/- The text that some bytes spell, or their first fault. -/
def decode
    (bytes : ByteArray) :
    Except Fault String :=
  if h : bytes.IsValidUTF8 then
    .ok (String.ofByteArray bytes h)
  else
    .error
      ((firstFault? 0 bytes.toList).getD ⟨bytes.size, none⟩)

/- Reading is the inverse of taking the bytes of a text. -/
theorem decode_eq_ok_iff
    (bytes : ByteArray)
    (s : String) :
    decode bytes = .ok s ↔ s.toByteArray = bytes := by
  unfold decode
  constructor
  · intro h
    split at h
    · simp only [Except.ok.injEq] at h
      subst h
      rfl
    · simp at h
  · rintro rfl
    rw [dif_pos s.isValidUTF8]

/- The bytes of a text read back as that text. -/
@[simp]
theorem decode_toByteArray (s : String) :
    decode s.toByteArray = .ok s :=
  (decode_eq_ok_iff _ _).mpr rfl

end Text.Utf8

end Reformat

------------------------------------------------------------
-- Reading Past Faults
------------------------------------------------------------

namespace Reformat

namespace Text.Utf8

/- What stands for bytes that are no character. -/
def replacementBytes : List UInt8 :=
  [0xEF, 0xBF, 0xBD]

/-
  Turn each longest faulty stretch into one replacement
  character; `done` holds the bytes so far, in reverse.
-/
def mend
    (done : List UInt8) :
    List UInt8 → List UInt8
  | [] => done.reverse
  | first :: bytes =>
      match front first bytes with
      | .whole n =>
          mend
            ((bytes.take (n - 1)).reverse ++ first :: done)
            (bytes.drop (n - 1))
      | .broken n =>
          mend (replacementBytes.reverse ++ done)
            (bytes.drop (n - 1))
      | .unfinished =>
          (replacementBytes.reverse ++ done).reverse
termination_by bytes => bytes.length
decreasing_by
  all_goals
    simp only [List.length_drop, List.length_cons]
    omega

/- Read bytes as text, faults shown as U+FFFD. -/
def decodeLossy (bytes : ByteArray) : String :=
  match decode bytes with
  | .ok s => s
  | .error _ =>
      match decode ⟨(mend [] bytes.toList).toArray⟩ with
      | .ok s => s
      | .error _ => ""

end Text.Utf8

end Reformat
