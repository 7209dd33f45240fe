import Reformat.Edit.Document
import Reformat.Proofs.Text.Bytes

/-
  Where the bytes of an edited text come from.

  What an edit does to a draft is a list of acts: spans are
  replaced and the caret is put somewhere.  Beside the draft
  its bytes are traced, so that each one is known as a byte of
  the text before, with its place there, or as one that an act
  has inserted.

  Key definitions include:
    * `Edit.Act`
    * `Edit.performAll`
    * `Edit.AllowedAll`
    * `Edit.TracedByte`
    * `Edit.traceAll`

  Main statements:
    * `Edit.getElem?_trace_replace`
    * `Edit.map_byte_traceAll`
    * `Edit.originals_traceAll_sublist`
-/

------------------------------------------------------------
-- Acts
------------------------------------------------------------

namespace Reformat

namespace Edit

/- One thing that is done to a draft. -/
inductive Act
  | replace (span : Span) (value : String)
  | moveCaret (offset : Nat)
deriving DecidableEq

namespace Act

/- Do it. -/
def perform
    (t : Draft) : Act → Draft
  | .replace r value => TextBuffer.replace t r value
  | .moveCaret offset => TextBuffer.moveCaret t offset

/- Whole characters of a text may be replaced, and the caret
  may be put anywhere. -/
def Allowed
    (s : String) : Act → Prop
  | .replace r _ =>
      r.Within (Text.size s) ∧
        Text.IsBoundary s r.start ∧
          Text.IsBoundary s r.stop
  | .moveCaret _ => True

/- Being allowed is decidable. -/
instance
    (s : String)
    (a : Act) :
    Decidable (a.Allowed s) := by
  unfold Allowed
  split <;> infer_instance

/- The acts that change the text. -/
def isReplace : Act → Bool
  | .replace _ _ => true
  | .moveCaret _ => false

end Act

/- Do some things one after the other. -/
def performAll
    (t : Draft)
    (acts : List Act) : Draft :=
  acts.foldl Act.perform t

/- Each act is allowed on the draft as it then is. -/
def AllowedAll : Draft → List Act → Prop
  | _, [] => True
  | t, a :: rest =>
      a.Allowed t.text ∧ AllowedAll (a.perform t) rest

/- Being allowed one after the other is decidable. -/
instance decidableAllowedAll :
    (t : Draft) →
      (acts : List Act) → Decidable (AllowedAll t acts)
  | _, [] => inferInstanceAs (Decidable True)
  | t, a :: rest =>
      haveI := decidableAllowedAll (a.perform t) rest
      inferInstanceAs (Decidable (_ ∧ _))

/-
  What holds at first and is kept by each act that is allowed
  holds after all of them.
-/
theorem performAll_induction
    {σ : Type}
    {next : σ → Act → σ}
    {P : Draft → σ → Prop}
    (hStep :
      ∀ (t : Draft) (x : σ) (a : Act),
        a.Allowed t.text →
          P t x → P (a.perform t) (next x a))
    {t : Draft}
    {x : σ}
    {acts : List Act}
    (hAllowed : AllowedAll t acts)
    (hStart : P t x) :
    P (performAll t acts) (acts.foldl next x) := by
  induction acts generalizing t x with
  | nil => exact hStart
  | cons a rest ih =>
      exact ih hAllowed.2 (hStep t x a hAllowed.1 hStart)

end Edit

end Reformat

------------------------------------------------------------
-- Traced Bytes
------------------------------------------------------------

namespace Reformat

namespace Edit

/- A byte, and its place in the text before, if it has one. -/
structure TracedByte where
  byte : UInt8
  origin? : Option Nat
deriving DecidableEq

/- The bytes of a text, each in its own place. -/
def traced (s : String) : List TracedByte :=
  (Text.bytes s).mapIdx fun p b => ⟨b, some p⟩

/- The bytes of a value that is put into a text. -/
def insertedBytes (value : String) : List TracedByte :=
  (Text.bytes value).map fun b => ⟨b, none⟩

/- The bytes after an act. -/
def Act.trace
    (bs : List TracedByte) : Act → List TracedByte
  | .replace r value =>
      bs.take r.start ++ insertedBytes value ++
        bs.drop r.stop
  | .moveCaret _ => bs

/- The bytes after some acts. -/
def traceAll
    (bs : List TracedByte)
    (acts : List Act) : List TracedByte :=
  acts.foldl Act.trace bs

/- The bytes that were there before. -/
def originals (bs : List TracedByte) : List TracedByte :=
  bs.filter fun b => b.origin?.isSome

/- The traced bytes of a text are its bytes. -/
@[simp]
theorem map_byte_traced (s : String) :
    (traced s).map TracedByte.byte = Text.bytes s := by
  apply List.ext_getElem?
  intro p
  cases hByte : (Text.bytes s)[p]? with
  | none => simp [traced, hByte]
  | some b => simp [traced, hByte]

/- The bytes of a value are put there as they are. -/
@[simp]
theorem map_byte_insertedBytes (value : String) :
    (insertedBytes value).map TracedByte.byte =
      Text.bytes value := by
  simp [insertedBytes, Function.comp_def]

/- A value has as many bytes as its size says. -/
@[simp]
theorem length_insertedBytes (value : String) :
    (insertedBytes value).length = Text.size value := by
  simp [insertedBytes]

/-
  The bytes after a replacement are those before its span,
  those of the value, and those behind the span.
-/
theorem getElem?_trace_replace
    {r : Span}
    {bs : List TracedByte}
    (hWithin : r.Within bs.length)
    (value : String)
    (k : Nat) :
    ((Act.replace r value).trace bs)[k]? =
      if k < r.start then bs[k]?
      else if k < r.start + Text.size value then
        (insertedBytes value)[k - r.start]?
      else
        bs[k - (r.start + Text.size value) + r.stop]? := by
  rcases hWithin with ⟨hOrder, hStop⟩
  have hFront : (bs.take r.start).length = r.start := by
    rw [List.length_take]
    omega
  have hValue := length_insertedBytes value
  simp only [Act.trace, List.append_assoc]
  split
  · next hBefore =>
    rw [List.getElem?_append_left (by omega),
      List.getElem?_take_of_lt hBefore]
  · next hNotBefore =>
    rw [List.getElem?_append_right (by omega), hFront]
    split
    · next hInside =>
      rw [List.getElem?_append_left (by omega)]
    · next hBehind =>
      rw [List.getElem?_append_right (by omega), hValue,
        List.getElem?_drop, Nat.sub_sub, Nat.add_comm]

/- No byte of a text has been inserted at first. -/
theorem originals_traced (s : String) :
    originals (traced s) = traced s := by
  apply List.filter_eq_self.mpr
  intro b hb
  rcases List.mem_mapIdx.mp hb with ⟨p, hp, rfl⟩
  rfl

/- No byte of a value was there before. -/
theorem originals_insertedBytes (value : String) :
    originals (insertedBytes value) = [] := by
  apply List.filter_eq_nil_iff.mpr
  intro b hb
  rcases List.mem_map.mp hb with ⟨c, hc, rfl⟩
  exact Bool.false_ne_true

/- Leaving out a span of a list leaves its order. -/
theorem take_append_drop_sublist
    {α : Type}
    (xs : List α)
    {start stop : Nat}
    (hOrder : start ≤ stop) :
    (xs.take start ++ xs.drop stop).Sublist xs := by
  have hBack :
      (xs.drop stop).Sublist (xs.drop start) := by
    have hEq :
        xs.drop stop =
          (xs.drop start).drop (stop - start) := by
      rw [List.drop_drop, Nat.add_sub_cancel' hOrder]
    rw [hEq]
    exact List.drop_sublist _ _
  have hAll := hBack.append_left (xs.take start)
  rw [List.take_append_drop] at hAll
  exact hAll

/- The traced bytes are those of the draft, act by act. -/
theorem map_byte_trace
    {t : Draft}
    {bs : List TracedByte}
    {a : Act}
    (hAllowed : a.Allowed t.text)
    (hBytes :
      bs.map TracedByte.byte = Text.bytes t.text) :
    (a.trace bs).map TracedByte.byte =
      Text.bytes (a.perform t).text := by
  cases a with
  | moveCaret offset => exact hBytes
  | replace r value =>
      rcases hAllowed with ⟨-, hStart, hStop⟩
      have hReplace := Text.bytes_replace hStart hStop value
      rw [← hBytes] at hReplace
      change _ = Text.bytes (Text.replace _ _ _ _)
      rw [hReplace]
      simp only [Act.trace, List.map_append, List.map_take,
        List.map_drop, map_byte_insertedBytes]

/- The traced bytes are those of the draft in the end. -/
theorem map_byte_traceAll
    {d : Document}
    {acts : List Act}
    (hAllowed : AllowedAll (Draft.ofDocument d) acts) :
    (traceAll (traced d.text) acts).map TracedByte.byte =
      Text.bytes
        (performAll (Draft.ofDocument d) acts).text :=
  performAll_induction
    (P := fun t (bs : List TracedByte) =>
      bs.map TracedByte.byte = Text.bytes t.text)
    (fun _ _ _ => map_byte_trace) hAllowed
    (map_byte_traced d.text)

/- An act only takes away bytes that were there before. -/
theorem originals_trace_sublist
    {t : Draft}
    {a : Act}
    (hAllowed : a.Allowed t.text)
    (bs : List TracedByte) :
    (originals (a.trace bs)).Sublist (originals bs) := by
  cases a with
  | moveCaret offset => exact List.Sublist.refl _
  | replace r value =>
      have hInserted := originals_insertedBytes value
      have hSublist :=
        (take_append_drop_sublist bs hAllowed.1.1).filter
          fun b => b.origin?.isSome
      unfold originals at hInserted ⊢
      simp only [Act.trace, List.filter_append, hInserted,
        List.append_nil] at hSublist ⊢
      exact hSublist

/-
  The bytes from the text before keep their order, whatever is
  taken away between them.
-/
theorem originals_traceAll_sublist
    {d : Document}
    {acts : List Act}
    (hAllowed : AllowedAll (Draft.ofDocument d) acts) :
    (originals (traceAll (traced d.text) acts)).Sublist
      (traced d.text) := by
  have hStart :
      (originals (traced d.text)).Sublist
        (traced d.text) :=
    List.filter_sublist
  refine
    performAll_induction
      (P := fun _ bs =>
        (originals bs).Sublist (traced d.text))
      ?_ hAllowed hStart
  intro t bs a hAllowed hSublist
  exact
    (originals_trace_sublist hAllowed bs).trans hSublist

end Edit

end Reformat
