/-
The grammar of JSON, apart from its reader, and how the reader takes numbers and strings off a
text. A document can be written in many ways: white space goes almost anywhere, and a character
of a string may stand for itself or be escaped, some in more than one manner. `Document` is all
of these ways.

A number has no end of its own, it goes on as long as its characters do. This is why what
follows it must be something else (`Ends`). Strings end at a quotation mark, and the only thing
to watch in them is half a surrogate pair: with the other half behind it it would be read as one
character with it.
-/
import ReadAhead.Json.Parser
import Mathlib.Data.List.DropRight
import Mathlib.Data.List.TakeWhile

set_option autoImplicit false

namespace ReadAhead.Json

open Text (Utf8.Spots)

/-! ## Tokens -/

/-- White space, possibly none. -/
def Space (s : Utf8.Spots) : Prop := ∀ c ∈ s, isSpace c = true

/-- Digits, at least one. -/
def Digits (ds : List Char) : Prop := ds ≠ [] ∧ ∀ d ∈ ds, d.isDigit = true

/-- A zero, or digits that do not start with one. -/
def Whole (ds : List Char) : Prop := Digits ds ∧ (ds.head? = some '0' → ds = ['0'])

/-- What may stand behind the point, and the point. -/
inductive Fraction : List Char → Prop
  | absent : Fraction []
  | present {ds : List Char} (h : Digits ds) : Fraction ('.' :: ds)

/-- An exponent and its letter. -/
inductive Power : List Char → Prop
  | absent : Power []
  | present {letter : Char} {plusMinus ds : List Char} (hletter : letter = 'e' ∨ letter = 'E')
      (hsign : plusMinus = [] ∨ plusMinus = ['+'] ∨ plusMinus = ['-']) (h : Digits ds) :
      Power (letter :: plusMinus ++ ds)

/-- A number without its sign. -/
inductive Unsigned : List Char → Prop
  | parts {whole fraction power : List Char} (hwhole : Whole whole) (hfraction : Fraction fraction)
      (hpower : Power power) : Unsigned (whole ++ fraction ++ power)

/-- The characters of a number. -/
inductive Number : List Char → Prop
  | plain {ds : List Char} (h : Unsigned ds) : Number ds
  | minus {ds : List Char} (h : Unsigned ds) : Number ('-' :: ds)

/-- The characters that have an escape of two characters, with the second one of it. -/
def shortEscapes : List (Char × Char) :=
  [('"', '"'), ('\\', '\\'), ('/', '/'), ('b', '\x08'), ('f', '\x0c'), ('n', '\n'),
    ('r', '\r'), ('t', '\t')]

/-- The escape of a 16-bit unit: four hexadecimal digits of either case. -/
inductive Escape : Nat → Utf8.Spots → Prop
  | digits {a b c d : Char} {w x y z : Nat} (ha : Text.hexValue? a = some w)
      (hb : Text.hexValue? b = some x) (hc : Text.hexValue? c = some y)
      (hd : Text.hexValue? d = some z) :
      Escape (4096 * w + 256 * x + 16 * y + z)
        [some '\\', some 'u', some a, some b, some c, some d]

/-- The ways to write a character, or a blank spot, in a string. -/
inductive Glyph : Option Char → Utf8.Spots → Prop
  | plain {c : Char} (quote : c ≠ '"') (backslash : c ≠ '\\') (control : 0x20 ≤ c.toNat) :
      Glyph (some c) [some c]
  | blank : Glyph none [none]
  | short {e c : Char} (h : (e, c) ∈ shortEscapes) : Glyph (some c) [some '\\', some e]
  | unit {n : Nat} {s : Utf8.Spots} (h : Escape n s) (whole : isHigh n = false ∧ isLow n = false) :
      Glyph (some (Char.ofNat n)) s
  | pair {high low : Nat} {s t : Utf8.Spots} (hs : Escape high s) (ht : Escape low t)
      (first : isHigh high = true) (second : isLow low = true) :
      Glyph (some (paired high low)) (s ++ t)

/-- What stands between the quotation marks of a string. -/
inductive Inside : Utf8.Spots → Utf8.Spots → Prop
  | nil : Inside [] []
  | glyph {c : Option Char} {s text rest : Utf8.Spots} (h : Glyph c s) (hrest : Inside text rest) :
      Inside (c :: text) (s ++ rest)
  /-- Half a surrogate pair is a blank spot, unless the other half follows. -/
  | half {n : Nat} {s text rest : Utf8.Spots} (h : Escape n s)
      (surrogate : isHigh n = true ∨ isLow n = true)
      (alone : isHigh n = true → ∀ low t, Escape low t → isLow low = true → ¬ t <+: rest)
      (hrest : Inside text rest) : Inside (none :: text) (s ++ rest)

/-- A string with its quotation marks. -/
inductive Quoted : Utf8.Spots → Utf8.Spots → Prop
  | marks {text s : Utf8.Spots} (h : Inside text s) : Quoted text (some '"' :: s ++ [some '"'])

/-! ## Values -/

/-- What the grammar has rules for: values, and the inside of arrays and objects that have one. -/
inductive Phrase where
  | value (v : Json)
  | items (items : List Json)
  | members (members : List (Utf8.Spots × Json))

/-- The ways to write a phrase. -/
inductive Spells : Phrase → Utf8.Spots → Prop
  | null : Spells (.value .null) (text "null")
  | yes : Spells (.value (.bool true)) (text "true")
  | no : Spells (.value (.bool false)) (text "false")
  | number {ds : List Char} (h : Number ds) : Spells (.value (.number ds)) (ds.map some)
  | string {spots s : Utf8.Spots} (h : Quoted spots s) : Spells (.value (.string spots)) s
  | noItems {a : Utf8.Spots} (ha : Space a) :
      Spells (.value (.array [])) (some '[' :: a ++ [some ']'])
  | array {items : List Json} {s : Utf8.Spots} (h : Spells (.items items) s) :
      Spells (.value (.array items)) (some '[' :: s ++ [some ']'])
  | noMembers {a : Utf8.Spots} (ha : Space a) :
      Spells (.value (.object [])) (some '\x7b' :: a ++ [some '\x7d'])
  | object {members : List (Utf8.Spots × Json)} {s : Utf8.Spots}
      (h : Spells (.members members) s) :
      Spells (.value (.object members)) (some '\x7b' :: s ++ [some '\x7d'])
  | lastItem {v : Json} {a s b : Utf8.Spots} (ha : Space a) (h : Spells (.value v) s)
      (hb : Space b) : Spells (.items [v]) (a ++ s ++ b)
  | item {v : Json} {items : List Json} {a s b rest : Utf8.Spots} (ha : Space a)
      (h : Spells (.value v) s) (hb : Space b) (hrest : Spells (.items items) rest) :
      Spells (.items (v :: items)) (a ++ s ++ b ++ some ',' :: rest)
  | lastMember {name : Utf8.Spots} {v : Json} {a n b c s d : Utf8.Spots} (ha : Space a)
      (hname : Quoted name n) (hb : Space b) (hc : Space c) (h : Spells (.value v) s)
      (hd : Space d) : Spells (.members [(name, v)]) (a ++ n ++ b ++ some ':' :: (c ++ s ++ d))
  | member {name : Utf8.Spots} {v : Json} {members : List (Utf8.Spots × Json)}
      {a n b c s d rest : Utf8.Spots} (ha : Space a) (hname : Quoted name n) (hb : Space b)
      (hc : Space c) (h : Spells (.value v) s) (hd : Space d)
      (hrest : Spells (.members members) rest) :
      Spells (.members ((name, v) :: members))
        (a ++ n ++ b ++ some ':' :: (c ++ s ++ d ++ some ',' :: rest))

/-- A text of a document: a value between white space. -/
inductive Document : Json → Utf8.Spots → Prop
  | between {v : Json} {a s b : Utf8.Spots} (ha : Space a) (h : Spells (.value v) s)
      (hb : Space b) : Document v (a ++ s ++ b)

/-! ## White space -/

/-- **White space is passed over**, up to where it ends. -/
theorem skip_append {a : Utf8.Spots} (ha : Space a) {c : Option Char} (hc : isSpace c = false)
    (rest : Utf8.Spots) : skip (a ++ c :: rest) = c :: rest := by
  induction a with
  | nil => simp [skip, hc]
  | cons first more ih =>
    have hfirst : isSpace first = true := ha first List.mem_cons_self
    have hmore : skip (more ++ c :: rest) = c :: rest :=
      ih fun d hd => ha d (List.mem_cons_of_mem _ hd)
    rw [List.cons_append, skip, List.dropWhile_cons, if_pos hfirst]
    exact hmore

theorem skip_of_space {a : Utf8.Spots} (ha : Space a) : skip a = [] := by
  rw [skip, List.dropWhile_eq_nil_iff]
  exact ha

theorem skip_skip (s : Utf8.Spots) : skip (skip s) = skip s := by
  rw [skip, skip, List.dropWhile_idempotent]

/-! ## Numbers -/

/-- No number goes on here. -/
def Ends (rest : Utf8.Spots) : Prop :=
  ∀ c more, rest = some c :: more → c.isDigit = false ∧ c ≠ '.' ∧ c ≠ 'e' ∧ c ≠ 'E'

theorem ends_nil : Ends [] := nofun

theorem ends_of_space {c : Option Char} (hc : isSpace c = true) (rest : Utf8.Spots) :
    Ends (c :: rest) := by
  rintro d more heq
  obtain ⟨rfl, -⟩ := List.cons.inj heq
  simp only [isSpace, Bool.or_eq_true, decide_eq_true_eq] at hc
  rcases hc with ((rfl | rfl) | rfl) | rfl <;> decide

/-- **Digits are read to their end.** -/
theorem digitRun_append {ds : List Char} (hds : ∀ d ∈ ds, d.isDigit = true) {rest : Utf8.Spots}
    (hrest : ∀ c more, rest = some c :: more → c.isDigit = false) :
    digitRun (ds.map some ++ rest) = (ds, rest) := by
  induction ds with
  | nil =>
    rcases rest with _ | ⟨_ | c, more⟩
    · rfl
    · rfl
    · simp [digitRun, hrest c more rfl]
  | cons d ds ih =>
    have hd : d.isDigit = true := hds d List.mem_cons_self
    have hmore := ih fun c hc => hds c (List.mem_cons_of_mem _ hc)
    simp [digitRun, hd, hmore]

/-- Behind the digits in front of a point or an exponent there are no more. -/
theorem Power.follow {power : List Char} (h : Power power) {rest : Utf8.Spots} (hrest : Ends rest)
    {c : Char} {more : Utf8.Spots} (heq : power.map some ++ rest = some c :: more) :
    c.isDigit = false ∧ c ≠ '.' := by
  cases h with
  | absent =>
    obtain ⟨hdigit, hpoint, -⟩ := hrest c more heq
    exact ⟨hdigit, hpoint⟩
  | present hletter =>
    obtain ⟨hc, -⟩ := List.cons.inj heq
    rw [← Option.some.inj hc]
    rcases hletter with rfl | rfl <;> decide

theorem Fraction.follow {fraction : List Char} (h : Fraction fraction) {rest : Utf8.Spots}
    (hrest : ∀ c more, rest = some c :: more → c.isDigit = false) {c : Char} {more : Utf8.Spots}
    (heq : fraction.map some ++ rest = some c :: more) : c.isDigit = false := by
  cases h with
  | absent => exact hrest c more heq
  | present =>
    obtain ⟨hc, -⟩ := List.cons.inj heq
    rw [← Option.some.inj hc]
    decide

theorem integer?_append {ds : List Char} (h : Whole ds) {rest : Utf8.Spots}
    (hrest : ∀ c more, rest = some c :: more → c.isDigit = false) :
    integer? (ds.map some ++ rest) = some (ds, rest) := by
  obtain ⟨⟨hne, hdigits⟩, hzero⟩ := h
  rw [integer?, digitRun_append hdigits hrest]
  split
  · next heq => exact absurd (Prod.mk.inj heq).1 hne
  · next heq =>
    obtain ⟨rfl, -⟩ := Prod.mk.inj heq
    exact absurd (hzero rfl) nofun
  · rfl

theorem fraction?_append {fraction : List Char} (h : Fraction fraction) {rest : Utf8.Spots}
    (hrest : ∀ c more, rest = some c :: more → c.isDigit = false ∧ c ≠ '.') :
    fraction? (fraction.map some ++ rest) = some (fraction, rest) := by
  cases h with
  | absent =>
    rw [List.map_nil, List.nil_append, fraction?]
    intro s heq
    exact (hrest '.' s heq).2 rfl
  | present hdigits =>
    obtain ⟨hne, hall⟩ := hdigits
    rw [List.map_cons, List.cons_append, fraction?,
      digitRun_append hall fun c more heq => (hrest c more heq).1]
    split
    · next heq => exact absurd (Prod.mk.inj heq).1 hne
    · next heq =>
      obtain ⟨rfl, rfl⟩ := Prod.mk.inj heq
      rfl

theorem sign_append {plusMinus ds : List Char}
    (hsign : plusMinus = [] ∨ plusMinus = ['+'] ∨ plusMinus = ['-']) (h : Digits ds)
    (rest : Utf8.Spots) :
    sign (plusMinus.map some ++ (ds.map some ++ rest)) = (plusMinus, ds.map some ++ rest) := by
  rcases hsign with rfl | rfl | rfl
  · obtain ⟨d, more, rfl⟩ := List.exists_cons_of_ne_nil h.1
    have hd : d.isDigit = true := h.2 d List.mem_cons_self
    rw [List.map_nil, List.nil_append, List.map_cons, List.cons_append, sign]
    · rintro s heq
      obtain ⟨rfl⟩ := Option.some.inj (List.cons.inj heq).1
      exact absurd hd (by decide)
    · rintro s heq
      obtain ⟨rfl⟩ := Option.some.inj (List.cons.inj heq).1
      exact absurd hd (by decide)
  · rfl
  · rfl

theorem power?_append (letter : Char) {plusMinus ds : List Char}
    (hsign : plusMinus = [] ∨ plusMinus = ['+'] ∨ plusMinus = ['-']) (h : Digits ds)
    {rest : Utf8.Spots} (hrest : Ends rest) :
    power? letter (plusMinus.map some ++ (ds.map some ++ rest)) =
      some (letter :: plusMinus ++ ds, rest) := by
  have hrun : digitRun (ds.map some ++ rest) = (ds, rest) :=
    digitRun_append h.2 fun c more heq => (hrest c more heq).1
  rw [power?, sign_append hsign h]
  dsimp only
  rw [hrun]
  split
  · next heq => exact absurd (Prod.mk.inj heq).1 h.1
  · next heq =>
    obtain ⟨rfl, rfl⟩ := Prod.mk.inj heq
    rfl

theorem exponent?_append {power : List Char} (h : Power power) {rest : Utf8.Spots}
    (hrest : Ends rest) : exponent? (power.map some ++ rest) = some (power, rest) := by
  cases h with
  | absent =>
    rw [List.map_nil, List.nil_append, exponent?]
    · intro s heq
      exact (hrest 'e' s heq).2.2.1 rfl
    · intro s heq
      exact (hrest 'E' s heq).2.2.2 rfl
  | @present letter plusMinus ds hletter hsign hdigits =>
    have hpower := power?_append letter hsign hdigits hrest
    rw [List.cons_append, List.map_cons, List.map_append, List.cons_append, List.append_assoc]
    rcases hletter with rfl | rfl
    · exact hpower
    · exact hpower

theorem unsigned?_append {ds : List Char} (h : Unsigned ds) {rest : Utf8.Spots}
    (hrest : Ends rest) : unsigned? (ds.map some ++ rest) = some (ds, rest) := by
  obtain ⟨hwhole, hfraction, hpower⟩ := h
  rename_i whole fraction power
  have hbehind : ∀ c more, power.map some ++ rest = some c :: more →
      c.isDigit = false ∧ c ≠ '.' := fun c more heq => hpower.follow hrest heq
  rw [List.map_append, List.map_append, List.append_assoc, List.append_assoc, unsigned?,
    integer?_append hwhole fun c more heq =>
      hfraction.follow (fun c more heq => (hbehind c more heq).1) heq]
  simp only [Option.bind_eq_bind, Option.bind_some, fraction?_append hfraction hbehind,
    exponent?_append hpower hrest, Option.pure_def]

/-- A number starts with its sign or with a digit. -/
theorem Unsigned.head {ds : List Char} (h : Unsigned ds) :
    ∃ d more, ds = d :: more ∧ d.isDigit = true := by
  obtain ⟨⟨⟨hne, hall⟩, -⟩, -, -⟩ := h
  obtain ⟨d, more, rfl⟩ := List.exists_cons_of_ne_nil hne
  exact ⟨d, _, rfl, hall d List.mem_cons_self⟩

theorem Number.head {ds : List Char} (h : Number ds) :
    ∃ d more, ds = d :: more ∧ (d = '-' ∨ d.isDigit = true) := by
  cases h with
  | plain h =>
    obtain ⟨d, more, hds, hd⟩ := h.head
    exact ⟨d, more, hds, .inr hd⟩
  | minus => exact ⟨'-', _, rfl, .inl rfl⟩

theorem Number.head_ne {d c : Char} {more : List Char} (h : Number (d :: more))
    (hdigit : c.isDigit = false) (hminus : c ≠ '-') : d ≠ c := by
  rintro rfl
  obtain ⟨d, _, heq, hd⟩ := h.head
  obtain ⟨rfl, -⟩ := List.cons.inj heq
  rcases hd with hd | hd
  · exact hminus hd
  · exact absurd (hdigit.symm.trans hd) Bool.false_ne_true

/-- **A number is read to its end.** -/
theorem number?_append {ds : List Char} (h : Number ds) {rest : Utf8.Spots}
    (hrest : Ends rest) : number? (ds.map some ++ rest) = some (ds, rest) := by
  cases h with
  | plain h =>
    rw [number?]
    · exact unsigned?_append h hrest
    · rintro s heq
      obtain ⟨d, more, rfl, hd⟩ := h.head
      obtain rfl := Option.some.inj (List.cons.inj heq).1
      exact absurd hd (by decide)
  | minus h =>
    rw [List.map_cons, List.cons_append, number?, unsigned?_append h hrest]
    rfl

/-! ## Strings -/

section

variable (rest : Utf8.Spots)

theorem pieces?_quote : pieces? (some '"' :: rest) = some ([], rest) := by
  rw [pieces?]

theorem pieces?_blank :
    pieces? (none :: rest) = (pieces? rest).map fun (ps, rest) => (.spot none :: ps, rest) := by
  rw [pieces?]
  cases pieces? rest <;> rfl

theorem pieces?_plain {c : Char} (quote : c ≠ '"') (backslash : c ≠ '\\')
    (control : 0x20 ≤ c.toNat) : pieces? (some c :: rest) =
      (pieces? rest).map fun (ps, rest) => (.spot (some c) :: ps, rest) := by
  rw [pieces?, if_neg (Nat.not_lt.2 control)]
  · cases pieces? rest <;> rfl
  · exact quote
  -- It is no escape of either kind.
  · exact fun _ _ _ _ _ _ heq => backslash heq
  · exact fun _ _ _ heq => backslash heq
  · exact backslash

/-- A short escape is known to the reader, and is not that of a unit. -/
theorem escape?_of_short {e c : Char} (h : (e, c) ∈ shortEscapes) :
    escape? e = some c ∧ e ≠ 'u' := by
  have all : ∀ pair ∈ shortEscapes, escape? pair.1 = some pair.2 ∧ pair.1 ≠ 'u' := by decide
  exact all _ h

theorem pieces?_short {e c : Char} (h : (e, c) ∈ shortEscapes) :
    pieces? (some '\\' :: some e :: rest) =
      (pieces? rest).map fun (ps, rest) => (.spot (some c) :: ps, rest) := by
  obtain ⟨hescape, hunit⟩ := escape?_of_short h
  rw [pieces?, hescape]
  · cases pieces? rest <;> rfl
  · exact fun _ _ _ _ _ _ heq => hunit heq

theorem pieces?_escape {n : Nat} {s : Utf8.Spots} (h : Escape n s) :
    pieces? (s ++ rest) = (pieces? rest).map fun (ps, rest) => (.unit n :: ps, rest) := by
  obtain ⟨ha, hb, hc, hd⟩ := h
  simp only [List.cons_append, List.nil_append]
  rw [pieces?, unit?, Option.bind_some, Option.bind_some, Option.bind_some, Option.bind_some,
    ha, hb, hc, hd]
  cases pieces? rest <;> rfl

end

/-- A unit stands for itself, unless it is half a pair and the other half follows. -/
theorem assemble_unit {n : Nat} {ps : List Piece}
    (h : isHigh n = true → ∀ low more, ps = .unit low :: more → isLow low = false) :
    assemble (.unit n :: ps) = lone n :: assemble ps := by
  cases ps with
  | nil => rfl
  | cons p more =>
    cases p with
    | spot c => rfl
    | unit low =>
      have hpair : (isHigh n && isLow low) = false := by
        by_cases hn : isHigh n = true
        · simp [h hn low more rfl]
        · simp [hn]
      rw [assemble, hpair]
      rfl

theorem assemble_pair {high low : Nat} (first : isHigh high = true) (second : isLow low = true)
    (ps : List Piece) :
    assemble (.unit high :: .unit low :: ps) = some (paired high low) :: assemble ps := by
  rw [assemble, first, second]
  rfl

/-- **A string is read to its closing quotation mark**, and what was read is its text. A unit in
front was written as the escape of one, which is what the half of a pair before it looks for. -/
theorem Inside.pieces {text s : Utf8.Spots} (h : Inside text s) (rest : Utf8.Spots) :
    ∃ ps, pieces? (s ++ some '"' :: rest) = some (ps, rest) ∧ assemble ps = text ∧
      ∀ n more, ps = .unit n :: more → ∃ t, Escape n t ∧ t <+: s := by
  induction h with
  | nil => exact ⟨[], pieces?_quote rest, rfl, nofun⟩
  | @glyph c s text behind hglyph _ ih =>
    obtain ⟨ps, hps, htext, -⟩ := ih
    -- What is no escape of a unit makes no unit.
    have hspot : ∀ c' : Option Char, (∀ n more, Piece.spot c' :: ps = .unit n :: more →
        ∃ t, Escape n t ∧ t <+: s ++ behind) := fun c' n more heq =>
      absurd (List.cons.inj heq).1 nofun
    rw [List.append_assoc]
    cases hglyph with
    | plain quote backslash control =>
      refine ⟨.spot _ :: ps, ?_, congrArg (List.cons _) htext, hspot _⟩
      rw [List.singleton_append, pieces?_plain _ quote backslash control, hps]
      rfl
    | blank =>
      refine ⟨.spot _ :: ps, ?_, congrArg (List.cons _) htext, hspot _⟩
      rw [List.singleton_append, pieces?_blank, hps]
      rfl
    | short hshort =>
      refine ⟨.spot _ :: ps, ?_, congrArg (List.cons _) htext, hspot _⟩
      rw [List.cons_append, List.singleton_append, pieces?_short _ hshort, hps]
      rfl
    | @unit n _ hunit whole =>
      refine ⟨.unit n :: ps, ?_, ?_, fun m more heq => ?_⟩
      · rw [pieces?_escape _ hunit, hps]
        rfl
      · rw [assemble_unit (fun high => absurd high (by simp [whole.1])), htext, lone]
        simp [whole.1, whole.2]
      · obtain ⟨hm, -⟩ := List.cons.inj heq
        exact Piece.unit.inj hm ▸ ⟨s, hunit, List.prefix_append s behind⟩
    | @pair high low s t hs ht first second =>
      refine ⟨.unit high :: .unit low :: ps, ?_, ?_, fun m more heq => ?_⟩
      · rw [List.append_assoc, pieces?_escape _ hs, pieces?_escape _ ht, hps]
        rfl
      · rw [assemble_pair first second, htext]
      · obtain ⟨hm, -⟩ := List.cons.inj heq
        refine Piece.unit.inj hm ▸ ⟨s, hs, ?_⟩
        rw [List.append_assoc]
        exact List.prefix_append s (t ++ behind)
  | @half n s text behind hunit surrogate alone _ ih =>
    -- A unit behind it would be written as an escape, which is not that of the other half.
    obtain ⟨ps, hps, htext, hunits⟩ := ih
    refine ⟨.unit n :: ps, ?_, ?_, fun m more heq => ?_⟩
    · rw [List.append_assoc, pieces?_escape _ hunit, hps]
      rfl
    · rw [assemble_unit ?_, htext, lone]
      · rcases surrogate with high | low
        · simp [high]
        · simp [low]
      · intro high low more heq
        obtain ⟨t, ht, hprefix⟩ := hunits low more heq
        by_contra hlow
        exact alone high low t ht (by simpa using hlow) hprefix
    · obtain ⟨hm, -⟩ := List.cons.inj heq
      exact Piece.unit.inj hm ▸ ⟨s, hunit, List.prefix_append s behind⟩

theorem Quoted.read {text s : Utf8.Spots} (h : Quoted text s) (rest : Utf8.Spots) :
    ∃ behind, s ++ rest = some '"' :: behind ∧ quoted? behind = some (text, rest) := by
  obtain ⟨hinside⟩ := h
  rename_i s
  obtain ⟨ps, hps, htext, -⟩ := hinside.pieces rest
  refine ⟨s ++ some '"' :: rest, by simp, ?_⟩
  rw [quoted?, hps, ← htext]
  rfl

end ReadAhead.Json
