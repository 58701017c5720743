/-
**Whatever the grammar has a text for is read as what it stands for.** The induction is on the
grammar: each rule is one step of the reader, with white space in front and something else
behind. The fuel that the reader starts with is twice the length of the text and more, and each
step leaves its parts at least twice theirs.

There is no text that is read as two documents then, and nothing that can be written differently
makes a difference to whoever only sees the document.
-/
import ReadAhead.Proofs.Json.Grammar

set_option autoImplicit false

namespace ReadAhead.Json

open Text (Utf8.Spots)

/-! ## Where phrases start -/

/-- The white space in front of a value was left out, or not. -/
theorem value?_skip (fuel : Nat) (s : Utf8.Spots) : value? fuel (skip s) = value? fuel s := by
  cases fuel with
  | zero => rw [value?, value?]
  | succ fuel => rw [value?, value?, skip_skip]

theorem items?_skip (fuel : Nat) (s : Utf8.Spots) : items? fuel (skip s) = items? fuel s := by
  cases fuel with
  | zero => rw [items?, items?]
  | succ fuel => rw [items?, items?, value?_skip]

theorem members?_skip (fuel : Nat) (s : Utf8.Spots) :
    members? fuel (skip s) = members? fuel s := by
  cases fuel with
  | zero => rw [members?, members?]
  | succ fuel => rw [members?, members?, skip_skip]

/-- **What a value starts with** is neither white space nor the end of an array. -/
theorem Spells.start {v : Json} {s : Utf8.Spots} (h : Spells (.value v) s) :
    ∃ c more, s = some c :: more ∧ isSpace (some c) = false ∧ c ≠ ']' := by
  cases h with
  | null | yes | no => exact ⟨_, _, rfl, by decide, by decide⟩
  | noItems | array | noMembers | object => exact ⟨_, _, rfl, by decide, by decide⟩
  | number h =>
    obtain ⟨d, more, rfl, -⟩ := h.head
    refine ⟨d, _, rfl, ?_, h.head_ne (by decide) (by decide)⟩
    have hspace : d ≠ ' ' ∧ d ≠ '\n' ∧ d ≠ '\t' ∧ d ≠ '\r' := by
      refine ⟨?_, ?_, ?_, ?_⟩ <;> exact h.head_ne (by decide) (by decide)
    simp [isSpace, hspace]
  | string h =>
    obtain ⟨h⟩ := h
    exact ⟨_, _, rfl, by decide, by decide⟩

/-- The white space in front of a value ends with it. -/
theorem Spells.skip {v : Json} {s : Utf8.Spots} (h : Spells (.value v) s) {a : Utf8.Spots}
    (ha : Space a) (rest : Utf8.Spots) : Json.skip (a ++ (s ++ rest)) = s ++ rest := by
  obtain ⟨c, more, rfl, hspace, -⟩ := h.start
  exact skip_append ha hspace _

theorem Spells.start_items {items : List Json} {s : Utf8.Spots} (h : Spells (.items items) s)
    (rest : Utf8.Spots) : ∃ c more, Json.skip (s ++ rest) = some c :: more ∧ c ≠ ']' := by
  have hfirst : ∀ {v : Json} {a s : Utf8.Spots}, Space a → Spells (.value v) s → ∀ behind,
      ∃ c more, Json.skip (a ++ (s ++ behind)) = some c :: more ∧ c ≠ ']' := by
    intro v a s ha h behind
    obtain ⟨c, more, hstart, -, hc⟩ := h.start
    exact ⟨c, more ++ behind, by rw [h.skip ha, hstart, List.cons_append], hc⟩
  cases h with
  | lastItem ha h | item ha h =>
    simp only [List.append_assoc]
    exact hfirst ha h _

theorem Spells.start_members {members : List (Utf8.Spots × Json)} {s : Utf8.Spots}
    (h : Spells (.members members) s) (rest : Utf8.Spots) :
    ∃ c more, Json.skip (s ++ rest) = some c :: more ∧ c ≠ '\x7d' := by
  have hfirst : ∀ {name a n : Utf8.Spots}, Space a → Quoted name n → ∀ behind,
      ∃ c more, Json.skip (a ++ (n ++ behind)) = some c :: more ∧ c ≠ '\x7d' := by
    rintro name a _ ha ⟨hname⟩ behind
    exact ⟨'"', _, skip_append ha (by decide) _, by decide⟩
  cases h with
  | lastMember ha hname | member ha hname =>
    simp only [List.append_assoc]
    exact hfirst ha hname _

/-! ## The steps of the reader -/

section

variable {a : Utf8.Spots} {fuel : Nat}

theorem word?_append (word : List Char) (rest : Utf8.Spots) :
    word? word (word.map some ++ rest) = some rest := by
  induction word with
  | nil => rfl
  | cons c more ih => rw [List.map_cons, List.cons_append, word?, if_pos rfl, ih]

theorem value?_word (ha : Space a) (rest : Utf8.Spots) :
    value? (fuel + 1) (a ++ (text "null" ++ rest)) = some (.null, rest) ∧
      value? (fuel + 1) (a ++ (text "true" ++ rest)) = some (.bool true, rest) ∧
      value? (fuel + 1) (a ++ (text "false" ++ rest)) = some (.bool false, rest) := by
  refine ⟨?_, ?_, ?_⟩
  · rw [value?, Spells.null.skip ha]
    show (word? "ull".toList ("ull".toList.map some ++ rest)).map _ = _
    rw [word?_append]
    rfl
  · rw [value?, Spells.yes.skip ha]
    show (word? "rue".toList ("rue".toList.map some ++ rest)).map _ = _
    rw [word?_append]
    rfl
  · rw [value?, Spells.no.skip ha]
    show (word? "alse".toList ("alse".toList.map some ++ rest)).map _ = _
    rw [word?_append]
    rfl

theorem value?_string (ha : Space a) {spots s : Utf8.Spots} (h : Quoted spots s)
    (rest : Utf8.Spots) : value? (fuel + 1) (a ++ (s ++ rest)) = some (.string spots, rest) := by
  obtain ⟨behind, hbehind, hread⟩ := h.read rest
  rw [value?, (Spells.string h).skip ha, hbehind]
  show (quoted? behind).map _ = _
  rw [hread]
  rfl

theorem value?_number (ha : Space a) {ds : List Char} (h : Number ds) {rest : Utf8.Spots}
    (hrest : Ends rest) :
    value? (fuel + 1) (a ++ (ds.map some ++ rest)) = some (.number ds, rest) := by
  have hread : number? (ds.map some ++ rest) = some (ds, rest) := number?_append h hrest
  rw [value?, (Spells.number h).skip ha]
  obtain ⟨d, more, rfl, -⟩ := h.head
  -- It is none of the characters that other values start with.
  have hother : ∀ c behind, c.isDigit = false → c ≠ '-' →
      (d :: more).map some ++ rest ≠ some c :: behind := fun c behind hdigit hminus heq =>
    h.head_ne hdigit hminus (Option.some.inj (List.cons.inj heq).1)
  split
  · next heq => exact absurd heq (hother 'n' _ (by decide) (by decide))
  · next heq => exact absurd heq (hother 't' _ (by decide) (by decide))
  · next heq => exact absurd heq (hother 'f' _ (by decide) (by decide))
  · next heq => exact absurd heq (hother '"' _ (by decide) (by decide))
  · next heq => exact absurd heq (hother '[' _ (by decide) (by decide))
  · next heq => exact absurd heq (hother '\x7b' _ (by decide) (by decide))
  · rw [hread]
    rfl

/-- Behind an opening bracket the array ends, or there are items. -/
theorem value?_bracket (ha : Space a) (s : Utf8.Spots) :
    value? (fuel + 1) (a ++ some '[' :: s) =
      match skip s with
      | some ']' :: rest => some (Json.array [], rest)
      | rest => (items? fuel rest).map fun (items, rest) => (Json.array items, rest) := by
  rw [value?, skip_append ha (by decide)]
  rfl

theorem value?_array (ha : Space a) {c : Char} {more s : Utf8.Spots} (hs : skip s = some c :: more)
    (hc : c ≠ ']') : value? (fuel + 1) (a ++ some '[' :: s) =
      (items? fuel s).map fun (items, rest) => (Json.array items, rest) := by
  rw [value?_bracket ha, ← items?_skip fuel s, hs]
  split
  · next heq => exact absurd (Option.some.inj (List.cons.inj heq).1) hc
  · rfl

theorem value?_brace (ha : Space a) (s : Utf8.Spots) :
    value? (fuel + 1) (a ++ some '\x7b' :: s) =
      match skip s with
      | some '\x7d' :: rest => some (Json.object [], rest)
      | rest => (members? fuel rest).map fun (members, rest) => (Json.object members, rest) := by
  rw [value?, skip_append ha (by decide)]
  rfl

theorem value?_object (ha : Space a) {c : Char} {more s : Utf8.Spots} (hs : skip s = some c :: more)
    (hc : c ≠ '\x7d') : value? (fuel + 1) (a ++ some '\x7b' :: s) =
      (members? fuel s).map fun (members, rest) => (Json.object members, rest) := by
  rw [value?_brace ha, ← members?_skip fuel s, hs]
  split
  · next heq => exact absurd (Option.some.inj (List.cons.inj heq).1) hc
  · rfl

/-- Behind the name of a member and the colon comes its value. -/
theorem members?_colon (ha : Space a) {name n : Utf8.Spots} (hname : Quoted name n)
    {b : Utf8.Spots} (hb : Space b) (s : Utf8.Spots) :
    members? (fuel + 1) (a ++ (n ++ (b ++ some ':' :: s))) =
      (do
        let (value, rest) ← value? fuel s
        match skip rest with
        | some ',' :: rest =>
          let (members, rest) ← members? fuel rest
          return ((name, value) :: members, rest)
        | some '\x7d' :: rest => return ([(name, value)], rest)
        | _ => none) := by
  obtain ⟨behind, hbehind, hread⟩ := hname.read (b ++ some ':' :: s)
  rw [members?, hbehind, skip_append ha (by decide)]
  simp only [hread, Option.bind_eq_bind, Option.bind_some]
  rw [skip_append hb (by decide)]
  rfl

end

/-! ## Phrases -/

/-- A text is read as a phrase, whatever comes before and behind it. -/
def Reads : Phrase → Utf8.Spots → Prop
  | .value v, s => ∀ a rest fuel, Space a → Ends rest → 2 * s.length ≤ fuel →
    value? fuel (a ++ (s ++ rest)) = some (v, rest)
  | .items items, s => ∀ rest fuel, 2 * s.length < fuel →
    items? fuel (s ++ some ']' :: rest) = some (items, rest)
  | .members members, s => ∀ rest fuel, 2 * s.length < fuel →
    members? fuel (s ++ some '\x7d' :: rest) = some (members, rest)

theorem ends_append {b rest : Utf8.Spots} (hb : Space b) (hrest : Ends rest) :
    Ends (b ++ rest) := by
  cases b with
  | nil => exact hrest
  | cons c more => exact ends_of_space (hb c List.mem_cons_self) _

theorem ends_cons {c : Char} (hc : c.isDigit = false ∧ c ≠ '.' ∧ c ≠ 'e' ∧ c ≠ 'E')
    (rest : Utf8.Spots) : Ends (some c :: rest) := by
  intro d more heq
  obtain rfl := Option.some.inj (List.cons.inj heq).1
  exact hc

/-- **What is written is read**, by the rules of the grammar. -/
theorem Spells.reads {phrase : Phrase} {s : Utf8.Spots} (h : Spells phrase s) : Reads phrase s := by
  -- There is fuel for one step, at least.
  have hstep : ∀ {n fuel : Nat}, 0 < n → n ≤ fuel → ∃ left, fuel = left + 1 := by
    intro n fuel hpos hle
    exact ⟨fuel - 1, by omega⟩
  induction h with
  | null | yes | no =>
    intro a rest fuel ha hrest hfuel
    obtain ⟨fuel, rfl⟩ := hstep (by decide) hfuel
    obtain ⟨hnull, hyes, hno⟩ := value?_word ha rest
    assumption
  | number h =>
    intro a rest fuel ha hrest hfuel
    obtain ⟨d, more, rfl, -⟩ := h.head
    obtain ⟨fuel, rfl⟩ := hstep (by simp) hfuel
    exact value?_number ha h hrest
  | string h =>
    intro a rest fuel ha hrest hfuel
    obtain ⟨fuel, rfl⟩ := hstep (by obtain ⟨h⟩ := h; simp) hfuel
    exact value?_string ha h rest
  | @noItems b hb =>
    intro a rest fuel ha hrest hfuel
    obtain ⟨fuel, rfl⟩ := hstep (by simp) hfuel
    simp only [List.append_assoc, List.cons_append, List.nil_append]
    rw [value?_bracket ha, skip_append hb (by decide)]
    rfl
  | @array items s h ih =>
    -- There is an item, and it does not start with the bracket that ends an empty array.
    intro a rest fuel ha hrest hfuel
    simp only [List.length_append, List.length_cons] at hfuel
    obtain ⟨fuel, rfl⟩ := hstep (by omega) hfuel
    obtain ⟨c, more, hstart, hc⟩ := h.start_items (some ']' :: rest)
    simp only [List.append_assoc, List.cons_append, List.nil_append]
    rw [value?_array ha hstart hc, ih rest fuel (by omega)]
    rfl
  | @noMembers b hb =>
    intro a rest fuel ha hrest hfuel
    obtain ⟨fuel, rfl⟩ := hstep (by simp) hfuel
    simp only [List.append_assoc, List.cons_append, List.nil_append]
    rw [value?_brace ha, skip_append hb (by decide)]
    rfl
  | @object members s h ih =>
    intro a rest fuel ha hrest hfuel
    simp only [List.length_append, List.length_cons] at hfuel
    obtain ⟨fuel, rfl⟩ := hstep (by omega) hfuel
    obtain ⟨c, more, hstart, hc⟩ := h.start_members (some '\x7d' :: rest)
    simp only [List.append_assoc, List.cons_append, List.nil_append]
    rw [value?_object ha hstart hc, ih rest fuel (by omega)]
    rfl
  | @lastItem v a s b ha h hb ih =>
    intro rest fuel hfuel
    simp only [List.length_append] at hfuel
    obtain ⟨fuel, rfl⟩ := hstep (by omega) hfuel
    -- No number goes on over white space, a comma or a bracket.
    have hvalue := ih a (b ++ some ']' :: rest) fuel ha
      (ends_append hb (ends_cons (by decide) rest)) (by omega)
    simp only [List.append_assoc]
    rw [items?, hvalue]
    simp only [Option.bind_eq_bind, Option.bind_some]
    rw [skip_append hb (by decide)]
    rfl
  | @item v items a s b more ha h hb hmore ih ihmore =>
    intro rest fuel hfuel
    simp only [List.length_append, List.length_cons] at hfuel
    obtain ⟨fuel, rfl⟩ := hstep (by omega) hfuel
    have hvalue := ih a (b ++ some ',' :: (more ++ some ']' :: rest)) fuel ha
      (ends_append hb (ends_cons (by decide) _)) (by omega)
    simp only [List.append_assoc, List.cons_append]
    rw [items?, hvalue]
    simp only [Option.bind_eq_bind, Option.bind_some]
    rw [skip_append hb (by decide)]
    show (do
      let (items, rest) ← items? fuel (more ++ some ']' :: rest)
      return (v :: items, rest)) = _
    rw [ihmore rest fuel (by omega)]
    rfl
  | @lastMember name v a n b c s d ha hname hb hc h hd ih =>
    intro rest fuel hfuel
    simp only [List.length_append, List.length_cons] at hfuel
    obtain ⟨fuel, rfl⟩ := hstep (by omega) hfuel
    have hvalue := ih c (d ++ some '\x7d' :: rest) fuel hc
      (ends_append hd (ends_cons (by decide) rest)) (by omega)
    simp only [List.append_assoc, List.cons_append]
    rw [members?_colon ha hname hb, hvalue]
    simp only [Option.bind_eq_bind, Option.bind_some]
    rw [skip_append hd (by decide)]
    rfl
  | @member name v members a n b c s d more ha hname hb hc h hd hmore ih ihmore =>
    intro rest fuel hfuel
    simp only [List.length_append, List.length_cons] at hfuel
    obtain ⟨fuel, rfl⟩ := hstep (by omega) hfuel
    have hvalue := ih c (d ++ some ',' :: (more ++ some '\x7d' :: rest)) fuel hc
      (ends_append hd (ends_cons (by decide) _)) (by omega)
    simp only [List.append_assoc, List.cons_append]
    rw [members?_colon ha hname hb, hvalue]
    simp only [Option.bind_eq_bind, Option.bind_some]
    rw [skip_append hd (by decide)]
    show (do
      let (members, rest) ← members? fuel (more ++ some '\x7d' :: rest)
      return ((name, v) :: members, rest)) = _
    rw [ihmore rest fuel (by omega)]
    rfl

/-- **The text of a document is read as the document.** -/
theorem Document.parse?_eq {v : Json} {s : Utf8.Spots} (h : Document v s) : parse? s = some v := by
  obtain ⟨ha, h, hb⟩ := h
  rename_i a s b
  have hread := h.reads a b (2 * (a ++ s ++ b).length + 2) ha
    (by simpa using ends_append hb ends_nil) (by simp only [List.length_append]; omega)
  rw [← List.append_assoc] at hread
  rw [parse?, hread]
  show (do
    guard (skip b).isEmpty
    return v) = some v
  rw [skip_of_space hb]
  rfl

end ReadAhead.Json
