/-
The register of a source's reads: what was asked for, what was answered, and what waits.
A read that was asked for is either answered or the one that waits, and never both: the
answered tags and the waiting one, taken together, are the numbers of the reads asked for.

Three things happen in a register. A refusal adds a read and answers it, an acceptance
adds a read and lets it wait, and the end of a wait answers it. Each moves one tag at
most, and that is all that is proved here. Which source the register belongs to, and who
ends the wait, plays no part; in what state a buffer has to come back is for the source
to say.
-/
import ReadAhead.Source.Read
import Mathlib.Data.List.Perm.Basic
import Mathlib.Data.List.Range

set_option autoImplicit false

namespace ReadAhead

/-! ## Answers -/

/-- An answer that was heard: whose, what it was, and the buffer handed back. -/
structure Answer where
  tag : Tag
  result : Read.Result
  buffer : Bytes
  deriving DecidableEq, Repr

/-- The answer to a read that an event is, if it is one. -/
def Event.answer? : Event → Option Answer
  | .read tag result buffer _ => some ⟨tag, result, buffer⟩
  | _ => none

/-- What is heard last adds the answer that it is, if it is one. -/
theorem Event.filterMap_answer?_concat (log : List Event) (event : Event) :
    (log ++ [event]).filterMap answer? = log.filterMap answer? ++ event.answer?.toList := by
  rw [List.filterMap_append]
  cases h : event.answer? <;> simp [h]

/-- The reads of a source. -/
structure Register where
  /-- The read that waits for an answer. -/
  pending : Option Read
  asked : List Ask
  answers : List Answer

namespace Register

/-! ## The invariant -/

/-- The tags of the reads that were answered and of the one that is pending. -/
def tags (r : Register) : List Tag := r.answers.map Answer.tag ++ r.pending.toList.map Read.tag

/-- The register is in order, and the buffers came `back` as they should. -/
structure Balanced (back : Answer → Bytes → Prop) (r : Register) : Prop where
  /-- Each read is answered once, or pending, and not both. -/
  accounted : r.tags.Perm (List.range r.asked.length)
  /-- The pending read is one that was asked for, with its own buffer. -/
  given : ∀ read, r.pending = some read → r.asked[read.tag]? = some ⟨read.position, read.buffer⟩
  /-- There is room in the buffer of the pending read. -/
  room : ∀ read, r.pending = some read → read.buffer ≠ []
  /-- Every buffer was handed back as it should be. -/
  returned : ∀ answer ∈ r.answers,
    ∃ ask, r.asked[answer.tag]? = some ask ∧ back answer ask.buffer

variable {back : Answer → Bytes → Prop}

/-- Reads that were asked for before keep their places. -/
theorem getElem?_asked {asked : List Ask} {tag : Tag} {ask : Ask} (h : asked[tag]? = some ask)
    (first : Ask) : (asked ++ [first])[tag]? = some ask := by
  obtain ⟨hlt, -⟩ := List.getElem?_eq_some_iff.1 h
  rw [List.getElem?_append_left hlt]
  exact h

theorem getElem?_asked_length (asked : List Ask) (first : Ask) :
    (asked ++ [first])[asked.length]? = some first := by
  rw [List.getElem?_append_right (Nat.le_refl _), Nat.sub_self]
  rfl

theorem balanced_new : Balanced back ⟨none, [], []⟩ where
  accounted := List.Perm.refl _
  given := nofun
  room := nofun
  returned := nofun

/-! ## What happens to a read -/

section

variable {pending : Option Read} {asked : List Ask} {answers : List Answer}

/-- Turning a read away adds it on both sides. -/
theorem Balanced.refused (h : Balanced back ⟨pending, asked, answers⟩) (first : Ask)
    {failure : Failure} (hback : back ⟨asked.length, .failed failure, first.buffer⟩ first.buffer) :
    Balanced back ⟨pending, asked ++ [first],
      answers ++ [⟨asked.length, .failed failure, first.buffer⟩]⟩ where
  accounted := by
    have hold := h.accounted
    simp only [tags, List.map_append, List.map_cons, List.map_nil, List.length_append,
      List.length_singleton, List.range_succ, List.append_assoc] at hold ⊢
    -- The new tag stands in front of the pending one, and has to go behind it.
    refine (List.Perm.append_left _ List.perm_append_comm).trans ?_
    rw [← List.append_assoc]
    exact hold.append_right [asked.length]
  given := fun read hread => getElem?_asked (h.given read hread) first
  room := h.room
  returned := by
    intro answer hin
    rcases List.mem_append.1 hin with hold | hnew
    · obtain ⟨ask, hask, hreturns⟩ := h.returned answer hold
      exact ⟨ask, getElem?_asked hask first, hreturns⟩
    · rw [List.mem_singleton.1 hnew]
      exact ⟨first, getElem?_asked_length asked first, hback⟩

/-- An accepted read waits in place of none. -/
theorem Balanced.accepted (h : Balanced back ⟨none, asked, answers⟩) (first : Ask)
    (inside : Plan) (hroom : first.buffer ≠ []) :
    Balanced back ⟨some ⟨asked.length, first.position, first.buffer, inside⟩, asked ++ [first],
      answers⟩ := by
  refine ⟨?_, ?_, ?_, ?_⟩
  · have hold := h.accounted
    simp only [tags, Option.toList_none, Option.toList_some, List.map_nil, List.map_cons,
      List.append_nil, List.length_append, List.length_singleton, List.range_succ] at hold ⊢
    exact hold.append_right [asked.length]
  -- The read that waits now is the one that was asked for last.
  · intro read hread
    obtain rfl := Option.some.inj hread
    exact getElem?_asked_length asked first
  · intro read hread
    obtain rfl := Option.some.inj hread
    exact hroom
  · intro answer hin
    obtain ⟨ask, hask, hreturns⟩ := h.returned answer hin
    exact ⟨ask, getElem?_asked hask first, hreturns⟩

/-- **The end of a wait** moves a tag from the pending reads to the answered ones. -/
theorem Balanced.ended (h : Balanced back ⟨pending, asked, answers⟩) {more : List Answer}
    (htags : more.map Answer.tag = pending.toList.map Read.tag)
    (hback : ∀ answer ∈ more, ∀ read, pending = some read →
      answer.tag = read.tag ∧ back answer read.buffer) :
    Balanced back ⟨none, asked, answers ++ more⟩ where
  accounted := by
    have hold := h.accounted
    simp only [tags, List.map_append, htags, Option.toList_none, List.map_nil,
      List.append_nil] at hold ⊢
    exact hold
  given := nofun
  room := nofun
  returned := by
    intro answer hin
    rcases List.mem_append.1 hin with hold | hnew
    · exact h.returned answer hold
    · -- An answer is given only where a read was pending.
      have htag : answer.tag ∈ pending.toList.map Read.tag := by
        rw [← htags]
        exact List.mem_map_of_mem hnew
      obtain ⟨read, hread, -⟩ := List.mem_map.1 htag
      have hpending : pending = some read := Option.mem_toList.1 hread
      obtain ⟨hsame, hreturned⟩ := hback answer hnew read hpending
      exact ⟨_, hsame ▸ h.given read hpending, hreturned⟩

/-- What a source that takes its leave answers. -/
def farewell (pending : Option Read) : List Answer :=
  pending.toList.map fun read => ⟨read.tag, .failed .stopped, read.buffer⟩

/-- Taking leave ends the wait of whoever is waiting. -/
theorem Balanced.farewell (h : Balanced back ⟨pending, asked, answers⟩)
    (hback : ∀ read : Read, back ⟨read.tag, .failed .stopped, read.buffer⟩ read.buffer) :
    Balanced back ⟨none, asked, answers ++ Register.farewell pending⟩ := by
  refine h.ended ?_ ?_
  · unfold Register.farewell
    rw [List.map_map]
    rfl
  · intro answer hin read hread
    obtain ⟨other, hother, rfl⟩ := List.mem_map.1 hin
    obtain rfl : other = read :=
      Option.some.inj ((Option.mem_toList.1 hother).symm.trans hread)
    exact ⟨rfl, hback other⟩

end

/-! ## Counting answers -/

section

variable {r : Register}

/-- **A read that was asked for is answered once or pending**, one that was not is
neither. -/
theorem Balanced.length_filter (h : r.Balanced back) (tag : Tag) :
    (r.answers.filter (·.tag == tag)).length + (r.pending.toList.map Read.tag).count tag =
      if tag < r.asked.length then 1 else 0 := by
  have hcount := h.accounted.count_eq tag
  rw [List.count_range, tags, List.count_append] at hcount
  -- Answers to a tag and occurrences of it among the answered tags are as many.
  rw [← hcount]
  congr 1
  rw [← List.countP_eq_length_filter, List.count, List.countP_map]
  rfl

theorem count_pending {pending : Option Read} {tag : Tag} :
    0 < (pending.toList.map Read.tag).count tag ↔ ∃ read, pending = some read ∧ read.tag = tag := by
  rw [List.count_pos_iff, List.mem_map]
  simp only [Option.mem_toList]

theorem Balanced.length_filter_le_one (h : r.Balanced back) (tag : Tag) :
    (r.answers.filter (·.tag == tag)).length ≤ 1 := by
  have hcount := h.length_filter tag
  split at hcount <;> omega

/-- The reads without an answer are the pending one. -/
theorem Balanced.filter_eq_nil_iff (h : r.Balanced back) {tag : Tag}
    (asked : tag < r.asked.length) :
    r.answers.filter (·.tag == tag) = [] ↔ ∃ read, r.pending = some read ∧ read.tag = tag := by
  have hcount := h.length_filter tag
  rw [if_pos asked] at hcount
  rw [← count_pending, ← List.length_eq_zero_iff]
  omega

/-- Where nobody waits, every read has its one answer. -/
theorem Balanced.length_filter_eq_one (h : r.Balanced back) (hnone : r.pending = none) {tag : Tag}
    (asked : tag < r.asked.length) : (r.answers.filter (·.tag == tag)).length = 1 := by
  have hcount := h.length_filter tag
  rw [if_pos asked, hnone] at hcount
  exact hcount

end

end Register

end ReadAhead
