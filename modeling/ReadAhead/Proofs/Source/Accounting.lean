/-
Every read is answered at most once, and none is lost. A read that was asked for is
either answered or the one that is pending, and never both: the answered tags and
the pending one, taken together, are the numbers of the reads asked for so far.

That sentence is the invariant `Balanced`, and each of the seven steps of a ledger
is a refusal, an acceptance or the end of a wait in its register, or nothing there.
Which of the runners' tasks ends a wait plays no part, nor does it when a task finds a
later read than the one it was posted for.
-/
import ReadAhead.Proofs.Source.Ledger
import ReadAhead.Proofs.Buffer.Fill

set_option autoImplicit false

namespace ReadAhead

/-- The answer hands back the buffer that was given with the read: with its length,
as it was if the read failed, and as it was behind the bytes that were copied. -/
def Answer.Returns (answer : Answer) (given : Bytes) : Prop :=
  answer.buffer.length = given.length ∧
    match answer.result with
    | .done count => answer.buffer.drop count = given.drop count
    | .failed _ => answer.buffer = given

namespace RemoteSource

/-! ## The invariant -/

namespace Ledger

/-- The reads of a ledger. -/
def register (l : Ledger) : Register := ⟨l.pending, l.asked, l.answers⟩

/-- The books of a source are in order. -/
structure Balanced (l : Ledger) : Prop extends Register.Balanced Answer.Returns l.register where
  /-- A source that is stopped has nobody waiting. -/
  quiet : ∀ source, l.source = some source → source.stopped = true → source.pending = none

end Ledger

/-- What is found in the cache leaves the rest of the read as it was. -/
theorem look?_returns {source : RemoteSource} {read found : Read} {count : Nat}
    (h : source.look? read = some (count, found)) :
    found.tag = read.tag ∧ Answer.Returns ⟨found.tag, .done count, found.buffer⟩ read.buffer := by
  unfold look? at h
  split at h
  · obtain ⟨rfl, rfl⟩ := Prod.mk.inj (Option.some.inj h)
    exact ⟨rfl, rfl, rfl⟩
  · split at h
    · next copied out hfill =>
      obtain ⟨rfl, rfl⟩ := Prod.mk.inj (Option.some.inj h)
      exact ⟨rfl, Buffer.length_of_fill hfill, Buffer.drop_of_fill hfill⟩
    · exact absurd h nofun

theorem refusal?_eq_none {source : RemoteSource} {first : Ask}
    (h : source.refusal? first = none) :
    source.stopped = false ∧ first.buffer ≠ [] ∧ source.pending = none := by
  unfold refusal? at h
  split at h
  · exact absurd h nofun
  next hlive =>
  split at h
  · exact absurd h nofun
  next hroom => exact ⟨by simpa using hlive, by simpa using hroom, by simpa using h⟩

/-! ## Every step -/

namespace Ledger

section

variable {source : RemoteSource} {asked : List Ask} {answers : List Answer}

/-- An accepted read waits in place of none. -/
theorem Balanced.accepted (h : Balanced ⟨some source, asked, answers⟩) (first : Ask)
    (inside : Plan) (hfree : source.refusal? first = none) :
    Balanced ⟨some { source with
        pending := some ⟨asked.length, first.position, first.buffer, inside⟩ },
      asked ++ [first], answers⟩ := by
  obtain ⟨hlive, hroom, hnone⟩ := refusal?_eq_none hfree
  have hregister : Register.Balanced Answer.Returns ⟨none, asked, answers⟩ := hnone ▸ h.toBalanced
  refine ⟨hregister.accepted first inside hroom, fun other hother hstopped => ?_⟩
  obtain rfl := Option.some.inj hother
  exact absurd (hlive.symm.trans hstopped) Bool.false_ne_true

/-- What changes the buffer alone changes nothing here. -/
theorem Balanced.withBuffer (h : Balanced ⟨some source, asked, answers⟩) (buffer : Buffer) :
    Balanced ⟨some { source with buffer }, asked, answers⟩ := by
  refine ⟨h.toBalanced, fun other hother hstopped => ?_⟩
  obtain rfl := Option.some.inj hother
  exact h.quiet source rfl hstopped

/-- Where nobody waits the register is all there is to the books. -/
theorem balanced_of_nobody {left : Option RemoteSource}
    (h : Register.Balanced Answer.Returns ⟨none, asked, answers⟩)
    (hnone : left.bind (·.pending) = none) : Balanced ⟨left, asked, answers⟩ := by
  refine ⟨?_, fun other hother _ => ?_⟩
  · show Register.Balanced Answer.Returns ⟨left.bind (·.pending), asked, answers⟩
    rw [hnone]
    exact h
  · obtain rfl : left = some other := hother
    exact hnone

end

/-- **Every step keeps the books in order.** -/
theorem Balanced.step {l m : Ledger} (h : Step l m) (hl : l.Balanced) : m.Balanced := by
  cases h with
  | refused first failure _ => exact ⟨hl.toBalanced.refused first ⟨rfl, rfl⟩, hl.quiet⟩
  | accepted first inside hfree => exact hl.accepted first inside hfree
  | sought => exact hl.withBuffer _
  | called => exact hl.withBuffer _
  | completed read found count live waits hfound =>
    obtain ⟨htag, hback⟩ := look?_returns hfound
    refine balanced_of_nobody (hl.toBalanced.ended ?_ ?_) rfl
    · show [found.tag] = _
      rw [htag, pending, Option.bind_some, waits]
      rfl
    · intro answer hin other hother
      obtain rfl : read = other := Option.some.inj (waits.symm.trans hother)
      rw [List.mem_singleton.1 hin]
      exact ⟨htag, hback⟩
  | stopped => exact balanced_of_nobody (hl.toBalanced.farewell fun _ => ⟨rfl, rfl⟩) rfl
  | gone => exact balanced_of_nobody (hl.toBalanced.farewell fun _ => ⟨rfl, rfl⟩) rfl

/-! ## Stopped sources -/

theorem Balanced.pending_eq_none {l : Ledger} (h : l.Balanced) (hc : l.closed = true) :
    l.pending = none := by
  unfold pending
  cases hsource : l.source with
  | none => rfl
  | some source =>
    rw [closed, hsource] at hc
    exact h.quiet source hsource hc

end Ledger

/-! ## Sessions -/

namespace Session

open Ledger

/-- The answers that were heard to a read. -/
def answersTo (s : Session) (tag : Tag) : List Answer := s.answers.filter (·.tag == tag)

/-- The read that waits for an answer. -/
def pending? (s : Session) : Option Read := s.source.bind (·.pending)

theorem pending_ledger (s : Session) : s.ledger.pending = s.pending? := by
  unfold Ledger.pending pending? ledger
  cases s.source <;> rfl

/-- **A read that was asked for is answered once or pending**, one that was not is
neither. -/
theorem length_answersTo {s : Session} (h : s.ledger.Balanced) (tag : Tag) :
    (s.answersTo tag).length + (s.pending?.toList.map Read.tag).count tag =
      if tag < s.asked.length then 1 else 0 := by
  have hcount := h.length_filter tag
  rw [register, pending_ledger] at hcount
  exact hcount

theorem count_pending {s : Session} {tag : Tag} :
    0 < (s.pending?.toList.map Read.tag).count tag ↔
      ∃ read, s.pending? = some read ∧ read.tag = tag := Register.count_pending

theorem balanced_start (retryDelay : Nat) (buffer : Buffer) :
    (start (.fresh retryDelay buffer)).ledger.Balanced :=
  balanced_of_nobody Register.balanced_new rfl

/-- The books are in order on every run. -/
theorem balanced_play (retryDelay : Nat) (buffer : Buffer) (moves : List Move) :
    ((start (.fresh retryDelay buffer)).play moves).ledger.Balanced :=
  (steps_play (routine_start _) moves).1.induction (fun _ _ h hl => hl.step h)
    (balanced_start retryDelay buffer)

/-- A read that finds its source stopped, brings no room, or comes while another one
is pending, is turned away. -/
theorem refusal?_eq_some {source : RemoteSource} {first : Ask}
    (h : source.stopped = true ∨ first.buffer = [] ∨ source.pending ≠ none) :
    ∃ failure, source.refusal? first = some failure ∧
      (source.stopped = true → failure = .stopped) ∧
      (source.stopped = false → ∃ fault, failure = .invalidRead fault) := by
  unfold refusal?
  cases hstopped : source.stopped with
  | true => exact ⟨.stopped, rfl, fun _ => rfl, nofun⟩
  | false =>
    rw [if_neg Bool.false_ne_true]
    cases hbuffer : first.buffer with
    | nil => exact ⟨_, rfl, nofun, fun _ => ⟨_, rfl⟩⟩
    | cons x rest =>
      rw [if_neg (by simp)]
      cases hpending : source.pending with
      | some other => exact ⟨_, rfl, nofun, fun _ => ⟨_, rfl⟩⟩
      | none =>
        rw [hstopped, hbuffer, hpending] at h
        simp at h

/-- A session in which one more read was turned away: it was asked for and answered.
The source, its timer and its buffer are as they were, and so are the runners. -/
def turnAway (s : Session) (place : Place) (first : Ask) (failure : Failure) : Session :=
  { s with
    asked := s.asked ++ [first]
    log := s.log ++ [.read s.asked.length (.failed failure) first.buffer place] }

/-- **Turning a read away** is all that happens before what is asked for inside the
answer. -/
theorem ask_refused {s : Session} {source : RemoteSource} (hsource : s.source = some source)
    (place : Place) {first : Ask} (inside rest : Plan) {failure : Failure}
    (h : source.refusal? first = some failure) :
    s.ask place (.ask first inside rest) =
      ((s.turnAway place first failure).ask place inside).ask place rest := by
  unfold turnAway
  rw [ask, hsource]
  dsimp only
  rw [h]
  rfl

/-- **Every read is answered at most once and never lost.** At any moment the reads
without an answer are the pending one; a read that is turned away is answered at
once, wherever it is asked for, and changes nothing; and once the source is stopped
or given up, every read has its one answer, whatever comes later. -/
theorem reads_accounted (retryDelay : Nat) (buffer : Buffer) (moves : List Move) :
    let s := (start (.fresh retryDelay buffer)).play moves
    (∀ tag, (s.answersTo tag).length ≤ 1) ∧
      (∀ tag < s.asked.length,
        s.answersTo tag = [] ↔ ∃ read, s.pending? = some read ∧ read.tag = tag) ∧
      (∀ read, s.pending? = some read →
        s.asked[read.tag]? = some ⟨read.position, read.buffer⟩) ∧
      (∀ (t : Session) (source : RemoteSource) (place : Place) (first : Ask) (inside rest : Plan),
        t.source = some source →
        source.stopped = true ∨ first.buffer = [] ∨ source.pending ≠ none →
        ∃ failure, (source.stopped = true → failure = .stopped) ∧
          (source.stopped = false → ∃ fault, failure = .invalidRead fault) ∧
          t.ask place (.ask first inside rest) =
            ((t.turnAway place first failure).ask place inside).ask place rest) ∧
      (∀ last, last = .stop ∨ last = .drop → ∀ later,
        let closed := (s.move last).play later
        ∀ tag < closed.asked.length, (closed.answersTo tag).length = 1) ∧
      ∀ answer ∈ s.answers,
        ∃ ask, s.asked[answer.tag]? = some ask ∧ answer.Returns ask.buffer := by
  intro s
  have hs : s.ledger.Balanced := balanced_play retryDelay buffer moves
  have hroutine : s.Routine := (steps_play (routine_start _) moves).2
  refine ⟨?_, ?_, ?_, ?_, ?_, hs.returned⟩
  · intro tag
    have hcount := length_answersTo hs tag
    split at hcount <;> omega
  · intro tag htag
    have hcount := length_answersTo hs tag
    rw [if_pos htag] at hcount
    rw [← count_pending, ← List.length_eq_zero_iff]
    omega
  · intro read hread
    rw [← s.pending_ledger] at hread
    exact hs.given read hread
  · intro t source place first inside rest hsource hrefused
    obtain ⟨failure, hfailure, hstopped, hinvalid⟩ := refusal?_eq_some hrefused
    exact ⟨failure, hstopped, hinvalid, ask_refused hsource place inside rest hfailure⟩
  · intro last hlast later closed tag htag
    -- The books are in order at the end, and nobody waits any more.
    have hfirst : (s.move last).ledger.closed = true := by
      rcases hlast with rfl | rfl
      · exact (leads_stop s).2
      · exact (leads_drop s).2
    obtain ⟨hmove, hnext⟩ := steps_move hroutine last
    obtain ⟨hplay, -⟩ := steps_play hnext later
    have hend : closed.ledger.Balanced :=
      (hmove.trans hplay).induction (fun _ _ h hl => hl.step h) hs
    have hclosed : closed.ledger.closed = true :=
      hplay.induction (fun _ _ => closed_step) hfirst
    have hcount := length_answersTo hend tag
    have hnone : closed.pending? = none := by
      rw [← closed.pending_ledger]
      exact hend.pending_eq_none hclosed
    rw [if_pos htag, hnone] at hcount
    exact hcount

end Session

end RemoteSource

end ReadAhead
