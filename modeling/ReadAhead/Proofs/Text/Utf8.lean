/-
Characters written as bytes and read back. The first four bytes are enough to see the first
character, however many bytes follow, and so a text is read one character at a time until it
has no bytes left: nothing in the bytes of a text is a blank spot, and nothing without blank
spots is anything but a text.
-/
import ReadAhead.Text.Utf8

set_option autoImplicit false

namespace ReadAhead.Text.Utf8

/-- **The first character is seen**, whatever bytes follow it. -/
theorem first?_append (c : Char) (rest : List UInt8) :
    first? (String.utf8EncodeChar c ++ rest) = some c := by
  have hlength : (String.utf8EncodeChar c).length ≤ 4 := by
    rw [String.length_utf8EncodeChar]
    exact Char.utf8Size_le_four c
  have hone : (String.utf8EncodeChar c).toByteArray.utf8DecodeChar? 0 = some c := by
    rw [← List.utf8Encode_singleton]
    exact List.utf8DecodeChar?_utf8Encode_singleton
  rw [first?, List.take_append, List.take_of_length_le hlength, List.toByteArray_append]
  exact ByteArray.utf8DecodeChar?_append_eq_some hone _

/-- Reading goes through a text character by character. -/
theorem scan_encode (cs : List Char) {fuel : Nat} (h : (encode cs).length ≤ fuel) :
    scan fuel (encode cs) = cs.map some := by
  induction cs generalizing fuel with
  | nil => cases fuel <;> rfl
  | cons c rest ih =>
    have hsplit : encode (c :: rest) = String.utf8EncodeChar c ++ encode rest := List.flatMap_cons
    have hsize : (String.utf8EncodeChar c).length = c.utf8Size := String.length_utf8EncodeChar c
    have hpos : 0 < c.utf8Size := Char.utf8Size_pos c
    rw [hsplit, List.length_append, hsize] at h
    obtain ⟨fuel, rfl⟩ : ∃ left, fuel = left + 1 := ⟨fuel - 1, by omega⟩
    obtain ⟨b, more, hbytes⟩ : ∃ b more, encode (c :: rest) = b :: more := by
      refine List.exists_cons_of_ne_nil fun hnil => ?_
      rw [hsplit, List.append_eq_nil_iff] at hnil
      rw [hnil.1, List.length_nil] at hsize
      omega
    have hfirst : first? (b :: more) = some c := by
      rw [← hbytes, hsplit]
      exact first?_append c _
    have hrest : (b :: more).drop c.utf8Size = encode rest := by
      rw [← hbytes, hsplit, ← hsize]
      exact List.drop_left
    rw [hbytes, scan, hfirst]
    simp only [hrest, List.map_cons]
    rw [ih (by omega)]

/-- **The bytes of a text are read as the text.** -/
theorem decode_encode (cs : List Char) : decode (encode cs) = cs.map some :=
  scan_encode cs (Nat.le_refl _)

/-- **A text is one of characters** if it has no blank spot. -/
theorem text?_eq_some_iff {spots : Spots} {cs : List Char} :
    text? spots = some cs ↔ spots = cs.map some := by
  induction spots generalizing cs with
  | nil =>
    rw [List.nil_eq, List.map_eq_nil_iff]
    exact Option.some_inj.trans eq_comm
  | cons spot rest ih =>
    have hstep : text? (spot :: rest) = spot.bind fun c => (text? rest).map (c :: ·) := by
      rw [text?, List.mapM_cons]
      cases spot with
      | none => rfl
      | some c => cases h : rest.mapM id <;> simp [text?, h]
    rw [hstep]
    cases spot with
    | none => cases cs <;> simp
    | some c =>
      simp only [Option.bind_some, Option.map_eq_some_iff, ih]
      constructor
      · rintro ⟨ds, rfl, rfl⟩
        rfl
      · intro heq
        obtain ⟨d, ds, rfl, hd, hds⟩ := List.map_eq_cons_iff.1 heq.symm
        obtain rfl := Option.some.inj hd
        exact ⟨ds, hds.symm, rfl⟩

theorem toUTF8_ofList (cs : List Char) : (String.ofList cs).toUTF8.data.toList = encode cs := by
  rw [String.toUTF8_eq_toByteArray, String.toByteArray_ofList]
  exact List.toList_data_toByteArray

end ReadAhead.Text.Utf8
