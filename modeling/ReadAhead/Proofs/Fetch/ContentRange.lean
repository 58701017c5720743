/-
What counts as a `Content-Range`. The reader trims and cuts its way through a value; what it
takes in the end is a language that can be written down without it: the unit, the two ends
and the length, each with blanks around it where blanks are allowed.

Three characters decide where the value is cut, and in a value that is accepted none of them
can stand anywhere else: numerals have neither dashes nor slashes in them, and the unit has
no space. To trim before cutting at a dash or a slash makes no difference, since neither is
a blank. Only the space in front of the range is one itself, and it is kept by what comes
behind it.
-/
import ReadAhead.Fetch.ContentRange
import ReadAhead.Proofs.Text.Blank
import ReadAhead.Proofs.Text.Decimal

set_option autoImplicit false

namespace ReadAhead

open Text

namespace ContentRange

/-- The length, or a star for none. -/
def Total : Option Nat → List Char → Prop
  | none, cs => cs = ['*']
  | some n, cs => Decimal.Signed n cs

/-- A value that is a range, written out: the unit in any case and one space, the first and
the last byte with a dash between them, and the length behind a slash. There may be blanks
around each of the numbers, and in front of everything. -/
def Written (value : List Char) (r : ContentRange) : Prop :=
  ∃ front unit first last length,
    value = front ++ unit ++ ' ' :: (first ++ '-' :: last ++ '/' :: length) ∧
      Blank front ∧ unit.map Char.toLower = "bytes".toList ∧
      Around (Decimal.Signed r.first) first ∧ Around (Decimal.Signed r.last) last ∧
      Around (Total r.length) length ∧ r.Sensible

/-! ## The unit -/

theorem map_toLower_bytes : "bytes".toList.map Char.toLower = "bytes".toList := by decide

/-- There are no blanks in the unit. -/
theorem not_blank_of_unit {unit : List Char} (h : unit.map Char.toLower = "bytes".toList)
    {c : Char} (hc : c ∈ unit) : isBlank c = false := by
  have hletters : ("bytes".toList.all fun letter => !isBlank letter) = true := by decide
  by_contra hblank
  rw [Bool.not_eq_false] at hblank
  have hletter : c ∈ "bytes".toList := by
    rw [← h, ← toLower_of_isBlank hblank]
    exact List.mem_map_of_mem hc
  have hkept := List.all_eq_true.1 hletters c hletter
  rw [hblank] at hkept
  exact absurd hkept Bool.false_ne_true

/-- A value that is trimmed begins with its unit, whatever blanks stand in front. -/
theorem trim_unit {front unit : List Char} (hfront : Blank front)
    (hunit : unit.map Char.toLower = "bytes".toList) {c : Char} (hc : isBlank c = false)
    (left right : List Char) :
    trim (front ++ unit ++ ' ' :: (left ++ c :: right)) =
      unit ++ ' ' :: (left ++ c :: trimRight right) := by
  obtain ⟨first, letters, rfl⟩ : ∃ first letters, unit = first :: letters := by
    cases unit with
    | nil => exact absurd hunit (by decide)
    | cons first letters => exact ⟨first, letters, rfl⟩
  have hfirst : isBlank first = false := not_blank_of_unit hunit List.mem_cons_self
  have hvalue : front ++ (first :: letters) ++ ' ' :: (left ++ c :: right) =
      front ++ first :: (letters ++ ' ' :: left ++ c :: right) := by simp
  rw [hvalue, trim_append_cons hfirst, trimLeft_of_blank hfront, trimRight_append_cons hc]
  simp

/-! ## The numbers -/

section

variable {cs : List Char} {c : Char} {n : Nat} {total : Option Nat}

theorem not_blank_of_isDigit (h : c.isDigit = true) : isBlank c = false := by
  obtain ⟨hzero, hnine⟩ := Decimal.isDigit_iff.1 h
  have hfirst : 48 ≤ c.toNat := hzero
  have hlast : c.toNat ≤ 57 := hnine
  rw [← Bool.not_eq_true]
  intro hblank
  simp only [isBlank, Bool.or_eq_true, Bool.and_eq_true, decide_eq_true_iff, beq_iff_eq] at hblank
  omega

theorem not_blank_of_signed (h : Decimal.Signed n cs) : ∀ c ∈ cs, isBlank c = false := by
  intro c hc
  rcases h.mem hc with rfl | hdigit
  · decide
  · exact not_blank_of_isDigit hdigit

theorem not_blank_of_total (h : Total total cs) : ∀ c ∈ cs, isBlank c = false := by
  cases total with
  | none =>
    intro c hc
    rw [h] at hc
    rw [List.mem_singleton.1 hc]
    decide
  | some n => exact not_blank_of_signed h

/-- A star is no number. -/
theorem not_signed_star : ¬ Decimal.Signed n ['*'] := fun h => by
  rcases h.mem (List.mem_singleton_self '*') with hplus | hdigit
  · exact absurd hplus (by decide)
  · exact absurd hdigit (by decide)

theorem length?_eq_some_iff : length? cs = some total ↔ Total total cs := by
  rw [length?]
  by_cases hstar : cs = ['*']
  · rw [if_pos hstar, Option.some.injEq]
    cases total with
    | none => exact iff_of_true rfl hstar
    | some n =>
      refine iff_of_false nofun fun h => ?_
      rw [hstar] at h
      exact not_signed_star h
  · rw [if_neg hstar, Option.map_eq_some_iff]
    cases total with
    | none => exact iff_of_false nofun hstar
    | some n =>
      simp only [Option.some.injEq, exists_eq_right]
      exact Decimal.signedWord?_eq_some_iff

/-- A number with blanks around it has digits, blanks and a plus sign, and nothing else. -/
theorem not_mem_of_around_signed (hblank : isBlank c = false) (hplus : c ≠ '+')
    (hdigit : c.isDigit = false) (h : Around (Decimal.Signed n) cs) : c ∉ cs := by
  obtain ⟨front, core, back, rfl, hfront, hback, hcore⟩ := h
  intro hc
  rcases List.mem_append.1 hc with hc | hc
  · rcases List.mem_append.1 hc with hc | hc
    · exact absurd (hblank.symm.trans (hfront c hc)) Bool.false_ne_true
    · rcases hcore.mem hc with hsign | hin
      · exact hplus hsign
      · exact absurd (hdigit.symm.trans hin) Bool.false_ne_true
  · exact absurd (hblank.symm.trans (hback c hc)) Bool.false_ne_true

theorem signedWord?_trim_iff :
    Decimal.signedWord? (trim cs) = some n ↔ Around (Decimal.Signed n) cs := by
  rw [Decimal.signedWord?_eq_some_iff, around_iff fun _ => not_blank_of_signed]

theorem length?_trim_iff : length? (trim cs) = some total ↔ Around (Total total) cs := by
  rw [length?_eq_some_iff, around_iff fun _ => not_blank_of_total]

end

/-! ## The range -/

/-- What comes behind the unit, written out. -/
def Tail (rest : List Char) (r : ContentRange) : Prop :=
  ∃ first last length, rest = first ++ '-' :: last ++ '/' :: length ∧
    Around (Decimal.Signed r.first) first ∧ Around (Decimal.Signed r.last) last ∧
    Around (Total r.length) length

/-- **The steps of the reader**, one after another. -/
theorem parse?_eq_some_iff {value : List Char} {r : ContentRange} :
    parse? value = some r ↔
      ∃ unit rest range length first last,
        cutAt ' ' (trim value) = some (unit, rest) ∧ sameLetters unit "bytes".toList = true ∧
          cutAt '/' (trim rest) = some (range, length) ∧
          cutAt '-' (trim range) = some (first, last) ∧
          Decimal.signedWord? (trim first) = some r.first ∧
          Decimal.signedWord? (trim last) = some r.last ∧
          length? (trim length) = some r.length ∧ r.Sensible := by
  have hguard : ∀ (p : Prop) [Decidable p] (u : Unit), (guard p : Option Unit) = some u ↔ p := by
    intro p _ u
    show (if p then some () else none) = some u ↔ p
    by_cases h : p <;> simp [h]
  constructor
  · intro h
    obtain ⟨⟨unit, rest⟩, hunit, h⟩ := Option.bind_eq_some_iff.1 h
    obtain ⟨_, hbytes, h⟩ := Option.bind_eq_some_iff.1 h
    obtain ⟨⟨range, length⟩, hslash, h⟩ := Option.bind_eq_some_iff.1 h
    obtain ⟨⟨first, last⟩, hdash, h⟩ := Option.bind_eq_some_iff.1 h
    obtain ⟨a, hfirst, h⟩ := Option.bind_eq_some_iff.1 h
    obtain ⟨b, hlast, h⟩ := Option.bind_eq_some_iff.1 h
    obtain ⟨total, hlength, h⟩ := Option.bind_eq_some_iff.1 h
    obtain ⟨_, hsense, h⟩ := Option.bind_eq_some_iff.1 h
    obtain rfl := Option.some.inj h
    exact ⟨unit, rest, range, length, first, last, hunit, (hguard _ _).1 hbytes, hslash, hdash,
      hfirst, hlast, hlength, (hguard _ _).1 hsense⟩
  · rintro ⟨unit, rest, range, length, first, last, hunit, hbytes, hslash, hdash, hfirst, hlast,
      hlength, hsense⟩
    apply Option.bind_eq_some_iff.2 ⟨(unit, rest), hunit, ?_⟩
    apply Option.bind_eq_some_iff.2 ⟨(), (hguard _ _).2 hbytes, ?_⟩
    apply Option.bind_eq_some_iff.2 ⟨(range, length), hslash, ?_⟩
    apply Option.bind_eq_some_iff.2 ⟨(first, last), hdash, ?_⟩
    apply Option.bind_eq_some_iff.2 ⟨r.first, hfirst, ?_⟩
    apply Option.bind_eq_some_iff.2 ⟨r.last, hlast, ?_⟩
    apply Option.bind_eq_some_iff.2 ⟨r.length, hlength, ?_⟩
    exact Option.bind_eq_some_iff.2 ⟨(), (hguard _ _).2 hsense, rfl⟩

/-- **Cutting at the slash and then at the dash** finds the parts. -/
theorem cut_tail_iff {rest : List Char} {r : ContentRange} :
    (∃ range length first last, cutAt '/' (trim rest) = some (range, length) ∧
      cutAt '-' (trim range) = some (first, last) ∧
      Decimal.signedWord? (trim first) = some r.first ∧
      Decimal.signedWord? (trim last) = some r.last ∧
      length? (trim length) = some r.length) ↔ Tail rest r := by
  have hdash : isBlank '-' = false := by decide
  have hslash : isBlank '/' = false := by decide
  constructor
  · rintro ⟨range, length, first, last, hcut, hinner, hfirst, hlast, hlength⟩
    rw [cutAt_trim hslash, Option.map_eq_some_iff] at hcut
    obtain ⟨⟨left, right⟩, hcut, hparts⟩ := hcut
    obtain ⟨rfl, rfl⟩ := Prod.mk.inj hparts
    rw [trim_trimLeft, cutAt_trim hdash, Option.map_eq_some_iff] at hinner
    obtain ⟨⟨front, back⟩, hinner, hparts⟩ := hinner
    obtain ⟨rfl, rfl⟩ := Prod.mk.inj hparts
    rw [trim_trimLeft, signedWord?_trim_iff] at hfirst
    rw [trim_trimRight, signedWord?_trim_iff] at hlast
    rw [trim_trimRight, length?_trim_iff] at hlength
    obtain ⟨rfl, -⟩ := cutAt_eq_some_iff.1 hcut
    obtain ⟨rfl, -⟩ := cutAt_eq_some_iff.1 hinner
    exact ⟨front, back, right, rfl, hfirst, hlast, hlength⟩
  · rintro ⟨first, last, length, rfl, hfirst, hlast, hlength⟩
    have hno : '/' ∉ first ++ '-' :: last := by
      rw [List.mem_append, List.mem_cons, not_or, not_or]
      exact ⟨not_mem_of_around_signed hslash (by decide) (by decide) hfirst, by decide,
        not_mem_of_around_signed hslash (by decide) (by decide) hlast⟩
    have hno' : '-' ∉ first := not_mem_of_around_signed hdash (by decide) (by decide) hfirst
    refine ⟨trimLeft (first ++ '-' :: last), trimRight length, trimLeft first, trimRight last,
      ?_, ?_, ?_, ?_, ?_⟩
    · rw [cutAt_trim hslash, cutAt_append_cons _ hno]
      rfl
    · rw [trim_trimLeft, cutAt_trim hdash, cutAt_append_cons _ hno']
      rfl
    · rwa [trim_trimLeft, signedWord?_trim_iff]
    · rwa [trim_trimRight, signedWord?_trim_iff]
    · rwa [trim_trimRight, length?_trim_iff]

/-- Blanks behind a range are part of its length. -/
theorem Tail.append {rest back : List Char} {r : ContentRange} (h : Tail rest r)
    (hback : Blank back) : Tail (rest ++ back) r := by
  obtain ⟨first, last, length, rfl, hfirst, hlast, hlength⟩ := h
  refine ⟨first, last, length ++ back, by simp, hfirst, hlast, ?_⟩
  obtain ⟨front, core, behind, rfl, hfront, hbehind, hcore⟩ := hlength
  refine ⟨front, core, behind ++ back, by simp, hfront, ?_, hcore⟩
  intro c hc
  rcases List.mem_append.1 hc with hc | hc
  · exact hbehind c hc
  · exact hback c hc

/-! ## The whole value -/

theorem written_iff {value : List Char} {r : ContentRange} :
    Written value r ↔ ∃ front unit rest, value = front ++ unit ++ ' ' :: rest ∧ Blank front ∧
      unit.map Char.toLower = "bytes".toList ∧ Tail rest r ∧ r.Sensible := by
  constructor
  · rintro ⟨front, unit, first, last, length, hvalue, hfront, hunit, hfirst, hlast, hlength, hsense⟩
    exact ⟨front, unit, _, hvalue, hfront, hunit,
      ⟨first, last, length, rfl, hfirst, hlast, hlength⟩, hsense⟩
  · rintro ⟨front, unit, _, hvalue, hfront, hunit,
      ⟨first, last, length, rfl, hfirst, hlast, hlength⟩, hsense⟩
    exact ⟨front, unit, first, last, length, hvalue, hfront, hunit, hfirst, hlast, hlength, hsense⟩

/-- **The reader takes what is written out as a range**, and nothing else. -/
theorem parse?_iff_written {value : List Char} {r : ContentRange} :
    parse? value = some r ↔ Written value r := by
  have hspace : isBlank ' ' = true := by decide
  rw [parse?_eq_some_iff, written_iff]
  constructor
  · rintro ⟨unit, rest, range, length, first, last, hcut, hbytes, hslash, hdash, hfirst, hlast,
      hlength, hsense⟩
    rw [sameLetters_iff, map_toLower_bytes] at hbytes
    have htail : Tail rest r :=
      cut_tail_iff.1 ⟨range, length, first, last, hslash, hdash, hfirst, hlast, hlength⟩
    obtain ⟨htrim, -⟩ := cutAt_eq_some_iff.1 hcut
    obtain ⟨front, back, hvalue, hfront, hback⟩ := exists_trim value
    refine ⟨front, unit, rest ++ back, ?_, hfront, hbytes, htail.append hback, hsense⟩
    rw [hvalue, htrim]
    simp
  · rintro ⟨front, unit, rest, rfl, hfront, hunit, htail, hsense⟩
    have hno : ' ' ∉ unit := fun hin =>
      absurd (hspace.symm.trans (not_blank_of_unit hunit hin)) (Ne.symm Bool.false_ne_true)
    -- Blanks behind the length are gone already when the unit is cut off.
    obtain ⟨left, right, rfl⟩ : ∃ left right, rest = left ++ '/' :: right := by
      obtain ⟨first, last, length, rfl, -⟩ := htail
      exact ⟨first ++ '-' :: last, length, rfl⟩
    have htrim : trim (front ++ unit ++ ' ' :: (left ++ '/' :: right)) =
        unit ++ ' ' :: trimRight (left ++ '/' :: right) := by
      rw [trim_unit hfront hunit (by decide), trimRight_append_cons (by decide)]
    obtain ⟨range, length, first, last, hslash, hdash, hnumbers⟩ := cut_tail_iff.2 htail
    rw [← trim_trimRight] at hslash
    refine ⟨unit, trimRight (left ++ '/' :: right), range, length, first, last, ?_, ?_, hslash,
      hdash, hnumbers.1, hnumbers.2.1, hnumbers.2.2, hsense⟩
    · rw [htrim, cutAt_append_cons _ hno]
    · rw [sameLetters_iff, map_toLower_bytes]
      exact hunit

/-- **What is printed is written out**, if the numbers fit. -/
theorem written_print {r : ContentRange} (hsense : r.Sensible) (hlast : r.last < UInt64.size)
    (hlength : ∀ n, r.length = some n → n < UInt64.size) : Written r.print r := by
  have hblank : Blank [] := fun _ h => absurd h List.not_mem_nil
  have hbare : ∀ {P : List Char → Prop} {cs : List Char}, P cs → Around P cs := fun {_ cs} h =>
    ⟨[], cs, [], (List.append_nil cs).symm, hblank, hblank, h⟩
  obtain ⟨length, hprint, htotal⟩ : ∃ length, r.print = "bytes ".toList ++
      Decimal.digits r.first ++ '-' :: Decimal.digits r.last ++ '/' :: length ∧
        Total r.length length := by
    refine ⟨_, rfl, ?_⟩
    revert hlength
    cases r.length with
    | none => exact fun _ => rfl
    | some n => exact fun hlength => Decimal.signed_digits (hlength n rfl)
  have hfirst : r.first < UInt64.size := Nat.lt_of_le_of_lt hsense.1 hlast
  refine ⟨[], "bytes".toList, Decimal.digits r.first, Decimal.digits r.last, length, ?_, hblank,
    map_toLower_bytes, hbare (Decimal.signed_digits hfirst), hbare (Decimal.signed_digits hlast),
    hbare htotal, hsense⟩
  rw [hprint]
  simp

/-- **A value is read as a range exactly if it is written out as one.** It is written out as
one range at most, whatever blanks, plus signs and zeros are in it; and whatever range makes
sense and has numbers that fit 64 bits is read back from the usual way to write it. -/
theorem read_iff_written (value : String) (r : ContentRange) :
    (ofString? value = some r ↔ Written value.toList r) ∧
      (∀ other, Written value.toList r → Written value.toList other → other = r) ∧
      (r.Sensible → r.last < UInt64.size → (∀ n, r.length = some n → n < UInt64.size) →
        ofString? (String.ofList r.print) = some r) := by
  refine ⟨parse?_iff_written, fun other h hother => ?_, fun hsense hlast hlength => ?_⟩
  · have hread := parse?_iff_written.2 h
    have hother := parse?_iff_written.2 hother
    exact Option.some.inj (hother.symm.trans hread)
  · rw [ofString?, String.toList_ofList]
    exact parse?_iff_written.2 (written_print hsense hlast hlength)

/-- A value with a tab and a no-break space in it, a plus sign, capitals and leading zeros,
and the usual way to write the same range. -/
theorem read_iff_written_lenient :
    let value : String := " BYTES \t+0 -\u00a0007/ 0010 "
    let r : ContentRange := ⟨0, 7, some 10⟩
    Written value.toList r ∧ (∀ other, Written value.toList other → other = r) ∧
      ofString? (String.ofList r.print) = some r ∧ String.ofList r.print = "bytes 0-7/10" := by
  intro value r
  obtain ⟨hread, hunique, hprint⟩ := read_iff_written value r
  have hwritten : Written value.toList r := hread.1 (by decide +kernel)
  refine ⟨hwritten, fun other => hunique other hwritten, ?_, by decide +kernel⟩
  exact hprint (by decide) (by decide) fun n hn => by
    obtain rfl : 10 = n := Option.some.inj hn
    decide

end ContentRange

end ReadAhead
