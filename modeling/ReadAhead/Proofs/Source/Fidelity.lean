/-
What a reader gets through a source is the resource, from server to answer. A read may
be answered by a task that was posted for another one, after transfers that were given
up, failed or were cut short, and with a size that any of them told; none of this
matters, because an answer depends on the buffer at the moment of the look alone, and
that is faithful at every moment of an honest run.

The invariant is `Truthful`: the buffer is faithful, the server will be honest for the
rest of the run, and every read that was completed got what it asked for. One read
after another, each at the place where the one before it ended, then give the resource
from the first place on, and nothing is read where there is still something to come.
-/
import ReadAhead.Proofs.Buffer.Fidelity
import ReadAhead.Proofs.Source.Accounting
import ReadAhead.Proofs.Source.Trace
import Mathlib.Algebra.GroupWithZero.Nat

set_option autoImplicit false

namespace ReadAhead

/-! ## Answers to a read -/

namespace Answer

/-- The number of bytes that were read. -/
def count (answer : Answer) : Nat :=
  match answer.result with
  | .done count => count
  | .failed _ => 0

/-- The bytes that were read. -/
def bytes (answer : Answer) : Bytes := answer.buffer.take answer.count

/-- An answer that a reader of a resource may get to what was asked: no bytes at the end
of the resource alone, and otherwise those that come next. -/
structure Meets (answer : Answer) (resource : Bytes) (ask : Ask) : Prop where
  ends : answer.result = .done 0 → resource.length ≤ ask.position
  room : answer.count ≤ ask.buffer.length
  inside : 0 < answer.count → ask.position + answer.count ≤ resource.length
  bytes : answer.bytes = (resource.drop ask.position).take answer.count

end Answer

namespace RemoteSource

open Buffer

/-- **What a look finds in a faithful buffer** is what the read asked for. -/
theorem look?_meets {resource : Bytes} {source : RemoteSource} {heard : List Signal}
    (h : Faithful resource source.buffer heard) {read found : Read} {count : Nat}
    (hfound : source.look? read = some (count, found)) :
    Answer.Meets ⟨found.tag, .done count, found.buffer⟩ resource ⟨read.position, read.buffer⟩ := by
  unfold look? at hfound
  split at hfound
  · next hend =>
    obtain ⟨rfl, rfl⟩ := Prod.mk.inj (Option.some.inj hfound)
    refine ⟨fun _ => ?_, Nat.zero_le _, fun hpos => absurd hpos (Nat.lt_irrefl 0), rfl⟩
    -- The end is past if the size is known, and then it is the resource's.
    unfold FetchWindow.isPastEnd at hend
    split at hend
    · next total htotal =>
      have hsize := h.size.resolve_left (by rw [htotal]; exact Option.some_ne_none total)
      obtain rfl := Option.some.inj (htotal.symm.trans hsize)
      exact of_decide_eq_true hend
    · exact absurd hend Bool.false_ne_true
  · split at hfound
    · next copied out hfill =>
      obtain ⟨rfl, rfl⟩ := Prod.mk.inj (Option.some.inj hfound)
      obtain ⟨hpos, hroom⟩ := count_of_fill hfill
      obtain ⟨hinside, hbytes⟩ := h.fill hfill
      refine ⟨fun hzero => ?_, hroom, fun _ => hinside, hbytes⟩
      cases hzero
      exact absurd hpos (Nat.lt_irrefl 0)
    · exact absurd hfound nofun

namespace Session

/-! ## Along a run -/

/-- The buffer is faithful, the server will be honest, and every completed read got
what it asked for. -/
structure Truthful (resource : Bytes) (s : Session) (later : List Call) : Prop where
  faithful : ∀ b, s.buffer? = some b →
    ∃ heard, Faithful resource b heard ∧ TruthfulRun resource b heard later
  met : ∀ answer ∈ s.completed, ∃ ask, s.asked[answer.tag]? = some ask ∧ answer.Meets resource ask

/-- No read is taken back. -/
theorem asked_move {s : Session} (h : s.Routine) (m : Move) : s.asked <+: (s.move m).asked := by
  have hkeep : ∀ l l' : Ledger, Ledger.Step l l' → s.asked <+: l.asked → s.asked <+: l'.asked := by
    intro l l' hstep hl
    cases hstep with
    | refused first | accepted first => exact hl.trans (List.prefix_append _ _)
    | _ => exact hl
  exact (steps_move h m).1.induction hkeep List.prefix_rfl

theorem getElem?_of_prefix {asked later : List Ask} (h : asked <+: later) {tag : Tag} {ask : Ask}
    (hask : asked[tag]? = some ask) : later[tag]? = some ask := by
  obtain ⟨hlt, rfl⟩ := List.getElem?_eq_some_iff.1 hask
  exact List.prefix_iff_getElem?.1 h tag hlt

/-- **Every move keeps reads truthful**, as long as the server is honest. -/
theorem Truthful.move {resource : Bytes} {s : Session} {m : Move} {later : List Call}
    (h : s.Truthful resource (s.calls m ++ later)) (hroutine : s.Routine)
    (hbalanced : s.ledger.Balanced) : (s.move m).Truthful resource later := by
  have hdelivers := delivers_move s m
  have hasked := asked_move hroutine m
  have hold : ∀ answer ∈ s.completed,
      ∃ ask, (s.move m).asked[answer.tag]? = some ask ∧ answer.Meets resource ask := by
    intro answer hin
    obtain ⟨ask, hask, hmeets⟩ := h.met answer hin
    exact ⟨ask, getElem?_of_prefix hasked hask, hmeets⟩
  refine ⟨fun b hb => ?_, fun answer hin => ?_⟩
  · rcases hdelivers.buffer with hgone | hbuffer
    · rw [hgone] at hb
      exact absurd hb.symm (Option.some_ne_none b)
    · rw [hbuffer] at hb
      obtain ⟨before, hbefore, rfl⟩ := Option.map_eq_some_iff.1 hb
      obtain ⟨heard, hfaithful, honest⟩ := h.faithful before hbefore
      exact hfaithful.along (s.calls m) later honest
  · rcases hdelivers.completed with
      hsame | ⟨source, read, found, count, hsource, waits, hlook, hnew⟩
    · rw [hsame] at hin
      exact hold answer hin
    · rw [hnew] at hin
      rcases List.mem_append.1 hin with hbefore | hlast
      · exact hold answer hbefore
      · obtain rfl := List.mem_singleton.1 hlast
        -- The look found what the buffer held by then, for the read as it was asked.
        obtain ⟨heard, hfaithful, honest⟩ := h.faithful source.buffer (buffer?_of_source hsource)
        obtain ⟨heard', hafter, -⟩ := hfaithful.along (s.calls m) later honest
        obtain ⟨htag, -⟩ := look?_returns hlook
        have hgiven : s.asked[read.tag]? = some ⟨read.position, read.buffer⟩ := by
          refine hbalanced.given read ?_
          rw [ledger_of_source hsource]
          exact waits
        refine ⟨_, getElem?_of_prefix hasked (htag ▸ hgiven), ?_⟩
        exact look?_meets hafter hlook

theorem Truthful.play {resource : Bytes} {s : Session} (moves : List Move)
    (h : s.Truthful resource (s.trace moves)) (hroutine : s.Routine)
    (hbalanced : s.ledger.Balanced) : (s.play moves).Truthful resource [] := by
  induction moves generalizing s with
  | nil => exact h
  | cons m rest ih =>
    obtain ⟨hsteps, hnext⟩ := steps_move hroutine m
    refine ih (h.move hroutine hbalanced) hnext ?_
    exact hsteps.induction (fun _ _ hstep hl => hl.step hstep) hbalanced

theorem truthful_start (retryDelay : Nat) {resource : Bytes} {fresh : Buffer} {later : List Call}
    (h : Faithful resource fresh []) (honest : TruthfulRun resource fresh [] later) :
    (start (.fresh retryDelay fresh)).Truthful resource later where
  faithful := by
    intro b hb
    obtain rfl : fresh = b := Option.some.inj hb
    exact ⟨[], h, honest⟩
  met := nofun

/-! ## One read after another -/

/-- Answers to reads of a session, the first at a position and each of the others where
the one before it ended. A read that failed is tried again. -/
def Consecutive (s : Session) : Nat → List Answer → Prop
  | _, [] => True
  | position, answer :: rest =>
    answer ∈ s.answers ∧ (∃ ask, s.asked[answer.tag]? = some ask ∧ ask.position = position) ∧
      Consecutive s (position + answer.count) rest

/-- The number of bytes that several reads got. -/
def total (reads : List Answer) : Nat := (reads.map Answer.count).sum

theorem Consecutive.split {s : Session} {position : Nat} {reads rest : List Answer}
    (h : s.Consecutive position (reads ++ rest)) :
    s.Consecutive position reads ∧ s.Consecutive (position + total reads) rest := by
  induction reads generalizing position with
  | nil => exact ⟨trivial, h⟩
  | cons answer more ih =>
    obtain ⟨hin, hask, hnext⟩ := h
    obtain ⟨hmore, hrest⟩ := ih hnext
    refine ⟨⟨hin, hask, hmore⟩, ?_⟩
    rw [total, List.map_cons, List.sum_cons, ← Nat.add_assoc]
    exact hrest

/-- A read that failed got nothing, whatever it asked for. -/
theorem count_of_not_done {answer : Answer} (h : answer.isDone = false) : answer.count = 0 := by
  unfold Answer.isDone at h
  unfold Answer.count
  cases hresult : answer.result with
  | done count =>
    rw [hresult] at h
    exact absurd h.symm Bool.false_ne_true
  | failed failure => rfl

theorem Truthful.bytes_eq {resource : Bytes} {s : Session} {later : List Call}
    (h : s.Truthful resource later) {answer : Answer} (hin : answer ∈ s.answers) {ask : Ask}
    (hask : s.asked[answer.tag]? = some ask) :
    answer.bytes = (resource.drop ask.position).take answer.count := by
  cases hdone : answer.isDone with
  | true =>
    obtain ⟨other, hother, hmeets⟩ := h.met answer (List.mem_filter.2 ⟨hin, hdone⟩)
    obtain rfl := Option.some.inj (hask.symm.trans hother)
    exact hmeets.bytes
  | false =>
    unfold Answer.bytes
    rw [count_of_not_done hdone]
    rfl

/-- **One read after another gives the resource**, as far as the reads go. -/
theorem Truthful.consecutive {resource : Bytes} {s : Session} {later : List Call}
    (h : s.Truthful resource later) {position : Nat} {reads : List Answer}
    (hreads : s.Consecutive position reads) :
    reads.flatMap Answer.bytes = (resource.drop position).take (total reads) := by
  induction reads generalizing position with
  | nil => rfl
  | cons answer rest ih =>
    obtain ⟨hin, ⟨ask, hask, rfl⟩, hrest⟩ := hreads
    calc (answer :: rest).flatMap Answer.bytes
        = answer.bytes ++ rest.flatMap Answer.bytes := List.flatMap_cons
      _ = (resource.drop ask.position).take answer.count ++
            (resource.drop (ask.position + answer.count)).take (total rest) := by
          rw [h.bytes_eq hin hask, ih hrest]
      _ = (resource.drop ask.position).take (answer.count + total rest) := by
          rw [List.take_add, List.drop_drop]
      _ = (resource.drop ask.position).take (total (answer :: rest)) := rfl

/-! ## From server to answer -/

/-- **A source hands out the resource and nothing else**, on every run on which the
server is honest about each transfer while it is the current one. The run of the buffer
is the one that the session makes of it. A read that is completed gets the bytes that
come next, and none only at the end of the resource; so reads one after another give
the resource from the first place on, and all of it before one of them gets nothing. -/
theorem reads_faithful (url : Url) (settings : BufferSettings) (label : String)
    (geometry : Geometry) (budget retryDelay : Nat) (resource : Bytes) (moves : List Move)
    (honest : TruthfulRun resource (withCache url settings (.empty label geometry budget)) []
      ((start (.fresh retryDelay (withCache url settings (.empty label geometry budget)))).trace
        moves)) :
    let fresh := withCache url settings (.empty label geometry budget)
    let first := start (.fresh retryDelay fresh)
    let s := first.play moves
    (∀ source, s.source = some source → source.buffer = fresh.after (first.trace moves)) ∧
      (∀ tag count out, ⟨tag, .done count, out⟩ ∈ s.answers →
        ∃ ask, s.asked[tag]? = some ask ∧ (count = 0 → resource.length ≤ ask.position) ∧
          (0 < count → count ≤ ask.buffer.length ∧ ask.position + count ≤ resource.length ∧
            out.take count = (resource.drop ask.position).take count)) ∧
      ∀ position reads, s.Consecutive position reads →
        reads.flatMap Answer.bytes <+: resource.drop position ∧
          ∀ before last after, reads = before ++ last :: after → last.result = .done 0 →
            before.flatMap Answer.bytes = resource.drop position := by
  intro fresh first s
  have hfresh : Faithful resource fresh [] :=
    faithful_withCache url settings label geometry budget resource
  have h : s.Truthful resource [] :=
    (truthful_start retryDelay hfresh honest).play moves (routine_start _)
      (balanced_start retryDelay fresh)
  refine ⟨fun source hsource => ?_, fun tag count out hin => ?_, fun position reads hreads => ?_⟩
  · have hbuffer : s.buffer? = some source.buffer := buffer?_of_source hsource
    rcases buffer?_play first moves with hgone | hplayed
    · exact absurd (hgone.symm.trans hbuffer) nofun
    · exact Option.some.inj (hbuffer.symm.trans hplayed)
  · obtain ⟨ask, hask, hmeets⟩ := h.met ⟨tag, .done count, out⟩ (List.mem_filter.2 ⟨hin, rfl⟩)
    refine ⟨ask, hask, ?_, fun hpos => ⟨hmeets.room, hmeets.inside hpos, hmeets.bytes⟩⟩
    rintro rfl
    exact hmeets.ends rfl
  · refine ⟨?_, ?_⟩
    · rw [h.consecutive hreads]
      exact List.take_prefix _ _
    · rintro before last after rfl hlast
      obtain ⟨hbefore, hin, ⟨ask, hask, hposition⟩, -⟩ := hreads.split
      rw [h.consecutive hbefore]
      -- Nothing was read at the end of the resource, so everything was read before.
      have hdone : last.isDone = true := by
        unfold Answer.isDone
        rw [hlast]
      obtain ⟨other, hother, hmeets⟩ := h.met last (List.mem_filter.2 ⟨hin, hdone⟩)
      obtain rfl := Option.some.inj (hask.symm.trans hother)
      have hend := hmeets.ends hlast
      refine List.take_of_length_le ?_
      rw [List.length_drop]
      omega

/-- The end of ten bytes, from a server that ignores the range: the body comes from byte
0, and the answer to the first read asks for what is behind the last byte. -/
theorem reads_faithful_to_the_end :
    let resource : Bytes := [10, 11, 12, 13, 14, 15, 16, 17, 18, 19]
    let fresh := withCache ⟨[], [], [], none, none, .rigid [], none, none⟩ ⟨2, 2, 8, 0⟩
      (.empty "" ⟨2⟩ 8)
    let moves : List Move :=
      [.read ⟨8, [0, 0, 0]⟩ (.ask ⟨10, [0]⟩ .done .done), .stepRender .own,
        .deliver none [.head ⟨200, some 10, none⟩, .bytes [10, 11, 12],
          .bytes [13, 14, 15, 16, 17, 18, 19], .ended .completed],
        .stepIo .own, .stepRender .own, .stepRender .own, .stepRender .own, .stepRender .own,
        .stepRender .own]
    let s := (start (.fresh 10 fresh)).play moves
    TruthfulRun resource fresh [] ((start (.fresh 10 fresh)).trace moves) ∧
      s.answers = [⟨0, .done 2, [18, 19, 0]⟩, ⟨1, .done 0, [0]⟩] ∧
      s.Consecutive 8 s.answers ∧ [18, 19] = resource.drop 8 := by
  intro resource fresh moves s
  have honest : TruthfulRun resource fresh [] ((start (.fresh 10 fresh)).trace moves) := by decide
  have hanswers : s.answers = [⟨0, .done 2, [18, 19, 0]⟩, ⟨1, .done 0, [0]⟩] := by decide
  have hasked : s.asked = [⟨8, [0, 0, 0]⟩, ⟨10, [0]⟩] := by decide
  obtain ⟨-, -, hbytes⟩ := reads_faithful _ _ _ _ _ 10 resource moves honest
  -- From here on the run is not looked into any more.
  change ∀ position reads, s.Consecutive position reads → _ at hbytes
  clear_value s
  have hreads : s.Consecutive 8 s.answers := by
    rw [hanswers]
    refine ⟨?_, ⟨_, by rw [hasked]; rfl, rfl⟩, ?_, ⟨_, by rw [hasked]; rfl, rfl⟩, trivial⟩ <;>
      rw [hanswers]
    · exact List.mem_cons_self
    · exact List.mem_cons_of_mem _ List.mem_cons_self
  refine ⟨honest, hanswers, hreads, ?_⟩
  exact (hbytes 8 _ hreads).2 [⟨0, .done 2, [18, 19, 0]⟩] ⟨1, .done 0, [0]⟩ [] hanswers rfl

end Session

end RemoteSource

end ReadAhead
