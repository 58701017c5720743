/-
Byte strings, and the one way the cache changes one: a chunk is laid over it at
an offset. What the chunk does not reach stays as it was, on both sides.

Everything that holds media bytes here -- a cached block, a read buffer, a
request body -- is a list of bytes, so that "the bytes at position `p`" is list
indexing and nothing else.
-/

set_option autoImplicit false

namespace ReadAhead

abbrev Bytes := List UInt8

namespace Bytes

/-! ## Overlay -/

/-- `old` with `new` laid over it from `offset` on. The result grows when `new`
reaches past the end of `old` and is never shorter than `old`. -/
def overlay (old : Bytes) (offset : Nat) (new : Bytes) : Bytes :=
  old.take offset ++ new ++ old.drop (offset + new.length)

@[simp] theorem overlay_nil (old : Bytes) (offset : Nat) : old.overlay offset [] = old := by
  simp [overlay]

/-- At the end of the string an overlay is an append. -/
theorem overlay_length_self (old new : Bytes) : old.overlay old.length new = old ++ new := by
  simp [overlay]

/-- Laid inside the string or at its end, the overlay reaches the further of
the two ends. -/
theorem length_overlay (old new : Bytes) (offset : Nat) (h : offset ≤ old.length) :
    (old.overlay offset new).length = max old.length (offset + new.length) := by
  simp only [overlay, List.length_append, List.length_take, List.length_drop]
  omega

/-- A byte before the overlay is the old byte. -/
theorem getElem?_overlay_of_lt (old new : Bytes) (offset i : Nat)
    (hi : i < offset) (h : offset ≤ old.length) :
    (old.overlay offset new)[i]? = old[i]? := by
  have hfront : i < (old.take offset).length := by rw [List.length_take]; omega
  rw [overlay, List.append_assoc, List.getElem?_append_left hfront, List.getElem?_take_of_lt hi]

/-- A byte inside the overlay is the new byte. -/
theorem getElem?_overlay_add (old new : Bytes) (offset i : Nat)
    (hi : i < new.length) (h : offset ≤ old.length) :
    (old.overlay offset new)[offset + i]? = new[i]? := by
  have hfront : (old.take offset).length = offset := List.length_take_of_le h
  rw [overlay, List.append_assoc, List.getElem?_append_right (by omega), hfront,
    Nat.add_sub_cancel_left, List.getElem?_append_left hi]

/-- A byte past the overlay is the old byte. -/
theorem getElem?_overlay_of_le (old new : Bytes) (offset i : Nat)
    (hi : offset + new.length ≤ i) (h : offset ≤ old.length) :
    (old.overlay offset new)[i]? = old[i]? := by
  have hfront : (old.take offset ++ new).length = offset + new.length := by
    rw [List.length_append, List.length_take_of_le h]
  rw [overlay, List.getElem?_append_right (by omega), hfront, List.getElem?_drop,
    Nat.add_sub_cancel' hi]

/-- Two overlays, the second one where the first ends, are one. -/
theorem overlay_overlay_add (old new more : Bytes) (offset : Nat) (h : offset ≤ old.length) :
    (old.overlay offset new).overlay (offset + new.length) more =
      old.overlay offset (new ++ more) := by
  have hfront : (old.take offset ++ new).length = offset + new.length := by
    rw [List.length_append, List.length_take_of_le h]
  have htake : (old.overlay offset new).take (offset + new.length) = old.take offset ++ new := by
    rw [overlay, ← hfront, List.take_left]
  have hdrop : (old.overlay offset new).drop (offset + new.length + more.length) =
      old.drop (offset + (new ++ more).length) := by
    rw [overlay, List.drop_append, List.drop_of_length_le (by omega), List.nil_append,
      List.drop_drop, hfront, List.length_append]
    congr 1
    omega
  rw [overlay, htake, hdrop, overlay, List.append_assoc (old.take offset)]

/-! ## Pieces

A transfer hands its body over in pieces. Cutting a body into pieces of a given
size loses nothing; an empty body is one empty piece, so that there is always
something to hand over. -/

/-- Pieces of `size` bytes; `fuel` bounds their number. -/
def cut (size : Nat) : Nat → Bytes → List Bytes
  | 0, rest => [rest]
  | fuel + 1, rest =>
    match rest.drop size with
    | [] => [rest]
    | more => rest.take size :: cut size fuel more

/-- The body in pieces of at most `size` bytes. -/
def pieces (size : Nat) (body : Bytes) : List Bytes :=
  cut (max size 1) body.length body

theorem flatten_cut (size fuel : Nat) (body : Bytes) : (cut size fuel body).flatten = body := by
  induction fuel generalizing body with
  | zero => simp [cut]
  | succ fuel ih =>
    rw [cut]
    split
    · simp
    · simp only [List.flatten_cons, ih]
      exact List.take_append_drop size body

/-- **Cutting loses nothing.** -/
theorem flatten_pieces (size : Nat) (body : Bytes) : (body.pieces size).flatten = body :=
  flatten_cut _ _ _

end Bytes

end ReadAhead
