/-
Documents that are written and read back. Each layout writes one of the texts that the grammar
has for a document, and so the document comes back from either: the layouts differ by white
space and by nothing else. All that is asked of a document is that its numbers are numbers.
Blank spots come back too, since the half of a pair that stands for one is never followed by
the other half: the writer escapes no other characters than those below a space.
-/
import ReadAhead.Json.Printer
import ReadAhead.Proofs.Json.Reading
import ReadAhead.Proofs.Text.Decimal

set_option autoImplicit false

namespace ReadAhead.Json

open Text (Utf8.Spots)

/-! ## Strings -/

theorem hexValue?_hexLower {n : Nat} (h : n < 16) : Text.hexValue? (hexLower n) = some n := by
  have all : ∀ m ∈ List.range 16, Text.hexValue? (hexLower m) = some m := by decide
  exact all n (List.mem_range.2 h)

/-- Control characters are escaped as units of two digits. -/
theorem escape_control {n : Nat} (h : n < 0x20) :
    Escape n [some '\\', some 'u', some '0', some '0', some (hexLower (n / 16)),
      some (hexLower (n % 16))] := by
  have hescape := Escape.digits (w := 0) (x := 0) (a := '0') (b := '0') (by decide) (by decide)
    (hexValue?_hexLower (n := n / 16) (by omega)) (hexValue?_hexLower (n := n % 16) (by omega))
  have hvalue : 4096 * 0 + 256 * 0 + 16 * (n / 16) + n % 16 = n := by omega
  rwa [hvalue] at hescape

/-- **What a character is written as**: a short escape if it has one, else a unit if it is a
control character, else itself. -/
theorem printChar_eq (c : Char) :
    (∃ e, (e, c) ∈ shortEscapes ∧ printChar c = ['\\', e]) ∨
      (c.toNat < 0x20 ∧ printChar c =
        ['\\', 'u', '0', '0', hexLower (c.toNat / 16), hexLower (c.toNat % 16)]) ∨
      c ≠ '"' ∧ c ≠ '\\' ∧ 0x20 ≤ c.toNat ∧ printChar c = [c] := by
  have hshort : ∀ e c' : Char, (e, c') ∈ shortEscapes → c = c' →
      ∃ e', (e', c) ∈ shortEscapes ∧ ['\\', e] = ['\\', e'] :=
    fun e c' hin heq => ⟨e, heq ▸ hin, rfl⟩
  unfold printChar
  split
  · next heq => exact .inl (hshort '"' _ (by decide) heq)
  split
  · next heq => exact .inl (hshort '\\' _ (by decide) heq)
  split
  · next heq => exact .inl (hshort 'b' _ (by decide) heq)
  split
  · next heq => exact .inl (hshort 'f' _ (by decide) heq)
  split
  · next heq => exact .inl (hshort 'n' _ (by decide) heq)
  split
  · next heq => exact .inl (hshort 'r' _ (by decide) heq)
  split
  · next heq => exact .inl (hshort 't' _ (by decide) heq)
  split
  · next hcontrol => exact .inr (.inl ⟨hcontrol, rfl⟩)
  · next hquote hbackslash _ _ _ _ _ hcontrol =>
    exact .inr (.inr ⟨hquote, hbackslash, Nat.not_lt.1 hcontrol, rfl⟩)

theorem glyph_printChar (c : Char) : Glyph (some c) ((printChar c).map some) := by
  rcases printChar_eq c with ⟨e, hshort, heq⟩ | ⟨hcontrol, heq⟩ | ⟨quote, backslash, control, heq⟩
  · rw [heq]
    exact .short hshort
  · have hglyph := Glyph.unit (escape_control hcontrol) (by simp [isHigh, isLow]; omega)
    rw [Char.ofNat_toNat] at hglyph
    rw [heq]
    exact hglyph
  · rw [heq]
    exact .plain quote backslash control

theorem hexValue?_lt {c : Char} {n : Nat} (h : Text.hexValue? c = some n) : n < 16 := by
  have hle : ∀ d : Char, c ≤ d → c.toNat ≤ d.toNat := fun d hle => UInt32.le_iff_toNat_le.1 hle
  unfold Text.hexValue? at h
  split at h
  · next hrange =>
    have htop := hle '9' hrange.2
    obtain rfl := Option.some.inj h
    exact Nat.lt_of_le_of_lt (Nat.sub_le_sub_right htop _) (by decide)
  split at h
  · next hrange =>
    have htop := hle 'f' hrange.2
    obtain rfl := Option.some.inj h
    exact Nat.lt_of_le_of_lt (Nat.add_le_add_right (Nat.sub_le_sub_right htop _) 10) (by decide)
  split at h
  · next hrange =>
    have htop := hle 'F' hrange.2
    obtain rfl := Option.some.inj h
    exact Nat.lt_of_le_of_lt (Nat.add_le_add_right (Nat.sub_le_sub_right htop _) 10) (by decide)
  · exact absurd h.symm (Option.some_ne_none n)

theorem printSpot_some (c : Char) : printSpot (some c) = printChar c := rfl

/-- The units that are escaped are control characters and the first half of a pair. -/
theorem printed_unit {spots : Utf8.Spots} {a b : Char} {more : Utf8.Spots}
    (h : (spots.flatMap printSpot).map some =
      some '\\' :: some 'u' :: some a :: some b :: more) : a = '0' ∨ a = 'd' ∧ b = '8' := by
  cases spots with
  | nil => exact absurd h (List.cons_ne_nil _ _).symm
  | cons spot rest =>
    rw [List.flatMap_cons, List.map_append] at h
    cases spot with
    | none =>
      change some '\\' :: some 'u' :: some 'd' :: some '8' :: _ = _ at h
      simp only [List.cons.injEq, Option.some.injEq, true_and] at h
      exact .inr ⟨h.1.symm, h.2.1.symm⟩
    | some c =>
      rw [printSpot_some] at h
      rcases printChar_eq c with ⟨e, hshort, heq⟩ | ⟨-, heq⟩ | ⟨-, backslash, -, heq⟩
      · simp only [heq, List.map_cons, List.cons_append, List.cons.injEq, Option.some.injEq,
          true_and] at h
        exact absurd h.1 (escape?_of_short hshort).2
      · simp only [heq, List.map_cons, List.cons_append, List.cons.injEq, Option.some.injEq,
          true_and] at h
        exact .inl h.1.symm
      · simp only [heq, List.map_cons, List.cons_append, List.cons.injEq, Option.some.injEq] at h
        exact absurd h.1 backslash

/-- No string is written so that it starts with the second half of a pair. -/
theorem low_not_printed {low : Nat} {t : Utf8.Spots} (ht : Escape low t) (hlow : isLow low = true)
    (spots : Utf8.Spots) : ¬ t <+: (spots.flatMap printSpot).map some := by
  rintro ⟨behind, hprinted⟩
  obtain ⟨ha, hb, hc, hd⟩ := ht
  have hx := hexValue?_lt hb
  have hy := hexValue?_lt hc
  have hz := hexValue?_lt hd
  simp only [isLow, Bool.and_eq_true, decide_eq_true_eq] at hlow
  rcases printed_unit hprinted.symm with rfl | ⟨rfl, rfl⟩
  · obtain rfl := Option.some.inj ((show Text.hexValue? '0' = some 0 by decide).symm.trans ha)
    omega
  · obtain rfl := Option.some.inj ((show Text.hexValue? 'd' = some 13 by decide).symm.trans ha)
    obtain rfl := Option.some.inj ((show Text.hexValue? '8' = some 8 by decide).symm.trans hb)
    omega

/-- **The inside of a string is written** as the grammar has it. -/
theorem inside_print (spots : Utf8.Spots) : Inside spots ((spots.flatMap printSpot).map some) := by
  induction spots with
  | nil => exact .nil
  | cons spot rest ih =>
    rw [List.flatMap_cons, List.map_append]
    cases spot with
    | some c => exact .glyph (glyph_printChar c) ih
    | none =>
      have hescape : Escape 0xD800 (("\\ud800".toList).map some) :=
        .digits (w := 13) (x := 8) (y := 0) (z := 0) (by decide) (by decide) (by decide) (by decide)
      exact .half hescape (.inl (by decide))
        (fun _ low t ht hlow => low_not_printed ht hlow rest) ih

theorem quoted_print (spots : Utf8.Spots) : Quoted spots ((printText spots).map some) := by
  have hquoted := Quoted.marks (inside_print spots)
  simpa [printText] using hquoted

/-! ## Numbers -/

/-- No number but zero is written with a zero in front. -/
theorem head?_digits {n : Nat} (h : 0 < n) : (Text.Decimal.digits n).head? ≠ some '0' := by
  induction n using Nat.strongRecOn with
  | ind n ih =>
    rw [Text.Decimal.digits]
    by_cases hlt : n < 10
    · have all : ∀ m ∈ List.range 10, 0 < m → some (Nat.digitChar m) ≠ some '0' := by decide
      rw [Nat.toDigits_of_lt_base hlt]
      exact all n (List.mem_range.2 hlt) h
    · have hrest := ih (n / 10) (by omega) (by omega)
      rw [Nat.toDigits_of_base_le (by decide) (by omega),
        List.head?_append_of_ne_nil _ Nat.toDigits_ne_nil]
      exact hrest

theorem number_digits (n : Nat) : Number (Text.Decimal.digits n) := by
  have hdenotes := Text.Decimal.denotes_digits n
  have hwhole : Whole (Text.Decimal.digits n) := by
    refine ⟨⟨hdenotes.nonempty, hdenotes.digits⟩, fun hzero => ?_⟩
    obtain rfl : n = 0 := Nat.eq_zero_of_not_pos fun hpos => head?_digits hpos hzero
    rfl
  have hparts := Unsigned.parts hwhole .absent .absent
  rw [List.append_nil, List.append_nil] at hparts
  exact .plain hparts

/-! ## Documents -/

/-- A document whose numbers are numbers. -/
inductive Proper : Json → Prop
  | null : Proper .null
  | bool (value : Bool) : Proper (.bool value)
  | number {ds : List Char} (h : Number ds) : Proper (.number ds)
  | string (spots : Utf8.Spots) : Proper (.string spots)
  | array {items : List Json} (h : ∀ item ∈ items, Proper item) : Proper (.array items)
  | object {members : List (Utf8.Spots × Json)} (h : ∀ member ∈ members, Proper member.2) :
      Proper (.object members)

theorem proper_nat (n : Nat) : Proper (.nat n) := .number (number_digits n)

/-- A layout adds white space and nothing else. -/
structure Layout.IsBlank (layout : Layout) : Prop where
  newline : ∀ depth, Space ((layout.newline depth).map some)
  afterColon : Space (layout.afterColon.map some)

theorem isBlank_compact : Layout.compact.IsBlank where
  newline := fun _ => nofun
  afterColon := nofun

theorem isBlank_pretty : Layout.pretty.IsBlank where
  newline := by
    intro depth c hc
    simp only [Layout.pretty, List.map_cons, List.map_replicate, List.mem_cons,
      List.mem_replicate] at hc
    rcases hc with rfl | ⟨-, rfl⟩ <;> decide
  afterColon := by
    intro c hc
    obtain rfl := List.mem_singleton.1 hc
    decide

section

variable {layout : Layout} {depth : Nat} {a b : Utf8.Spots}

/-- Items are written one behind the other. -/
theorem spells_items (hlayout : layout.IsBlank) (ha : Space a) (hb : Space b) {item : Json}
    {items : List Json}
    (h : ∀ v ∈ item :: items, Spells (.value v) ((print layout depth v).map some)) :
    Spells (.items (item :: items)) (a ++ (print layout depth item).map some ++
      ((printItems layout depth items).map some ++ b)) := by
  -- The first item stands behind the bracket, each other one behind a comma.
  induction items generalizing a item with
  | nil =>
    rw [printItems, List.map_nil, List.nil_append]
    exact .lastItem ha (h item List.mem_cons_self) hb
  | cons next rest ih =>
    have hrest := ih (hlayout.newline depth) fun v hv => h v (List.mem_cons_of_mem _ hv)
    have hall := Spells.item ha (h item List.mem_cons_self) (b := []) nofun hrest
    simpa only [printItems, List.map_append, List.map_cons, List.append_assoc, List.cons_append,
      List.nil_append] using hall

theorem spells_members (hlayout : layout.IsBlank) (ha : Space a) (hb : Space b)
    {name : Utf8.Spots} {value : Json} {members : List (Utf8.Spots × Json)}
    (h : ∀ member ∈ (name, value) :: members,
      Spells (.value member.2) ((print layout depth member.2).map some)) :
    Spells (.members ((name, value) :: members)) (a ++ (printText name).map some ++
      some ':' :: (layout.afterColon.map some ++ (print layout depth value).map some ++
        ((printMembers layout depth members).map some ++ b))) := by
  induction members generalizing a name value with
  | nil =>
    have hlast := Spells.lastMember ha (quoted_print name) (b := []) nofun hlayout.afterColon
      (h _ List.mem_cons_self) hb
    simpa only [printMembers, List.map_nil, List.append_nil, List.nil_append] using hlast
  | cons next rest ih =>
    obtain ⟨nextName, nextValue⟩ := next
    have hrest := ih (hlayout.newline depth) fun member hin => h member (List.mem_cons_of_mem _ hin)
    have hall := Spells.member ha (quoted_print name) (b := []) nofun hlayout.afterColon
      (h _ List.mem_cons_self) (d := []) nofun hrest
    simpa only [printMembers, List.map_append, List.map_cons, List.append_assoc, List.cons_append,
      List.append_nil, List.nil_append] using hall

end

/-- **Whatever the layout, what is written is a text of the document.** -/
theorem Proper.spells {v : Json} (h : Proper v) {layout : Layout} (hlayout : layout.IsBlank)
    (depth : Nat) : Spells (.value v) ((print layout depth v).map some) := by
  -- For any depth, since what is inside stands deeper.
  induction h generalizing depth with
  | null =>
    rw [print]
    exact .null
  | bool value =>
    cases value with
    | true =>
      rw [print]
      exact .yes
    | false =>
      rw [print]
      exact .no
  | number h =>
    rw [print]
    exact .number h
  | string spots =>
    rw [print]
    exact .string (quoted_print spots)
  | @array items _ ih =>
    cases items with
    | nil =>
      rw [print]
      exact .noItems (a := []) nofun
    | cons item items =>
      have hitems := spells_items hlayout (hlayout.newline (depth + 1)) (hlayout.newline depth)
        fun v hv => ih v hv (depth + 1)
      simpa only [print, List.map_append, List.map_cons, List.map_nil, List.append_assoc,
        List.cons_append] using Spells.array hitems
  | @object members _ ih =>
    cases members with
    | nil =>
      rw [print]
      exact .noMembers (a := []) nofun
    | cons member members =>
      obtain ⟨name, value⟩ := member
      have hmembers := spells_members hlayout (hlayout.newline (depth + 1)) (hlayout.newline depth)
        fun member hin => ih member hin (depth + 1)
      simpa only [print, List.map_append, List.map_cons, List.map_nil, List.append_assoc,
        List.cons_append] using Spells.object hmembers

/-- What is written, in either layout, is a text of the document. -/
theorem Proper.document_print {v : Json} (h : Proper v) {layout : Layout}
    (hlayout : layout.IsBlank) : Document v (text (String.ofList (print layout 0 v))) := by
  have hdocument := Document.between (a := []) (b := []) nofun (h.spells hlayout 0) nofun
  rw [List.nil_append, List.append_nil] at hdocument
  rw [text, String.toList_ofList]
  exact hdocument

theorem Proper.document_compact {v : Json} (h : Proper v) : Document v (text (compact v)) :=
  h.document_print isBlank_compact

theorem Proper.document_pretty {v : Json} (h : Proper v) : Document v (text (pretty v)) :=
  h.document_print isBlank_pretty

end ReadAhead.Json
