/-
What becomes of a transfer that was answered with an error. Nothing of its body is stored,
so whoever waits for a position waits for another transfer, and only a seek can start one.

The seek does not ask how the transfer was answered. It asks how it ended, and an error
whose body came in whole ended as well as any answer does. Its head tells no size, so
unless another transfer did, the end counts as the end of the resource, and readers up
to the lookahead past it are left waiting: `error_answer_retried_iff` draws the line. On
the wrong side of it the next seek finds what this one found, and so does any other.
-/
import ReadAhead.Proofs.Buffer.Superseded

set_option autoImplicit false

namespace ReadAhead.Buffer

variable {b : Buffer} {p : Nat}

/-! ## Transfers that are over -/

/-- A transfer that came to an end of its own counts as complete as long as nobody knows
the size, and what lies ahead of it within the lookahead is waited for. -/
theorem needsRestart_of_completed (completed : b.window.phase = .completed)
    (unknown : b.size? = none) (ahead : b.window.frontier ≤ p)
    (near : p ≤ b.window.frontier + b.settings.maxLookahead) : b.needsRestart p = false := by
  have hstart : b.window.start ≤ b.window.frontier := Nat.le_add_right _ _
  have hstalled : b.window.isStalledAt p = false := by
    rw [Bool.eq_false_iff, ne_eq, isStalledAt_iff]
    rintro ⟨-, -, hfailed | ⟨-, total, htotal, -⟩⟩
    · exact absurd (completed.symm.trans hfailed) nofun
    · exact absurd (unknown.symm.trans htotal) nofun
  have hreach : b.window.isOutOfReach p b.settings.maxLookahead = false := by
    rw [Bool.eq_false_iff, ne_eq, isOutOfReach_iff]
    omega
  have hmissing : b.isMissing p = false := by
    rw [isMissing, FetchWindow.isBehind, decide_eq_false (Nat.not_lt.2 ahead), Bool.false_and]
  rw [needsRestart, completed, hstalled, hreach, hmissing]
  rfl

/-- **When a transfer that is over is left in its place** though nothing can be copied from
the position, which lies inside the resource as far as its size is known: when it came to
an end of its own, nobody knows the size, and the position is within the lookahead. -/
theorem needsRestart_eq_false_iff (hs : b.cache.Sized)
    (finished : b.window.phase = .completed ∨ b.window.phase = .failed)
    (inside : ∀ total, b.size? = some total → p < total) (byte : UInt8)
    (missing : (b.fill p [byte]).1 = none) :
    b.needsRestart p = false ↔
      b.window.phase = .completed ∧ b.size? = none ∧ b.window.frontier ≤ p ∧
        p ≤ b.window.frontier + b.settings.maxLookahead := by
  constructor
  · intro hstays
    obtain hfilled | ⟨hfetching, -⟩ | ⟨total, htotal, hpast⟩ | ⟨hcompleted, hsize⟩ :=
      served_of_needsRestart_eq_false hs hstays byte
    · exact absurd (missing.symm.trans hfilled) nofun
    · rcases finished with h | h <;> exact absurd (hfetching.symm.trans h) nofun
    · exact absurd hpast (Nat.not_le.2 (inside total htotal))
    · have hnone := mt (needsRestart_iff hs byte).2 (by simpa using hstays)
      simp only [not_or, Nat.not_lt] at hnone
      obtain ⟨-, hstart, hnear, hbehind, -⟩ := hnone
      -- A position that the transfer has passed would have been missed.
      exact ⟨hcompleted, hsize, Nat.not_lt.1 fun hp => hbehind ⟨hstart, hp, missing⟩, hnear⟩
  · rintro ⟨hcompleted, hsize, hahead, hnear⟩
    exact needsRestart_of_completed hcompleted hsize hahead hnear

/-- **Seeks that start nothing add up to nothing**: each finds what the one before found,
but for the place of the reader. -/
theorem effects_run_seeks (live : b.stopped = false) (tries : List Nat)
    (hstays : ∀ q ∈ tries, b.needsRestart q = false) : (b.run (tries.map .seek)).2 = [] := by
  induction tries generalizing b with
  | nil => rfl
  | cons q rest ih =>
    have hseek : b.step (.seek q) = (b.readerAt q, []) := by
      rw [step, seek_of_live live, hstays q List.mem_cons_self]
      rfl
    rw [List.map_cons, effects_run_cons, hseek]
    exact ih (b := b.readerAt q) live fun other hin => hstays other (List.mem_cons_of_mem _ hin)

/-! ## Errors -/

/-- An error gives its body no place in the resource. -/
theorem isPlaced_of_error {head : Head} (answered : b.response = some head)
    (error : head.isSuccess = false) : b.isPlaced = false := by
  rw [isPlaced, answered, Option.bind_some, Head.origin?, error]
  rfl

/-- **Which error answers are retried.** On any run, let the current transfer be over, with
an error for an answer, and let nothing be cached at a position that lies inside the
resource as far as its size is known. Then a seek to the position starts another transfer,
at the start of the position's block, unless the transfer came to an end of its own, its
size is not known, and the position is not before its frontier nor more than the lookahead
behind it.

No number of seeks to such positions starts one, and whatever else comes of the answer's
body is not stored. -/
theorem error_answer_retried_iff (url : Url) (settings : BufferSettings) {cache : Cache}
    (sized : cache.Sized) (calls : List Call)
    (live : ((withCache url settings cache).after calls).stopped = false) {head : Head}
    (answered : ((withCache url settings cache).after calls).response = some head)
    (error : head.isSuccess = false)
    (finished : ((withCache url settings cache).after calls).window.phase = .completed ∨
      ((withCache url settings cache).after calls).window.phase = .failed)
    (p : Nat)
    (inside : ∀ total, ((withCache url settings cache).after calls).size? = some total → p < total)
    (byte : UInt8)
    (missing : (((withCache url settings cache).after calls).fill p [byte]).1 = none) :
    let b := (withCache url settings cache).after calls
    let near (q : Nat) : Prop :=
      b.window.frontier ≤ q ∧ q ≤ b.window.frontier + settings.maxLookahead
    ((b.seek p).1 = false ↔ b.window.phase = .completed ∧ b.size? = none ∧ near p) ∧
      ((b.seek p).1 = true → requests (b.seek p).2.2 = [.rangeFrom (b.window.attempt + 1) b.url
        (cache.geometry.startOf (cache.geometry.blockOf p))]) ∧
      ((b.seek p).1 = false → ∀ tries : List Nat, (∀ q ∈ tries, near q) →
        (b.run (tries.map .seek)).2 = []) ∧
      ∀ fetch bytes, b.step (.deliver fetch (.bytes bytes)) = (b, []) := by
  intro b near
  have hs : b.cache.Sized := ((sound_withCache url settings sized).after calls).sized
  have hgeometry : b.cache.geometry = cache.geometry := geometry_after _ calls
  have hsettings : b.settings = settings := settings_after _ calls
  have hstays : (b.seek p).1 = false ↔ b.window.phase = .completed ∧ b.size? = none ∧ near p := by
    rw [fst_seek live, needsRestart_eq_false_iff hs finished inside byte missing, hsettings]
  refine ⟨hstays, fun hmoved => ?_, fun hstayed tries hnear => ?_, fun fetch bytes => ?_⟩
  · rw [fst_seek live] at hmoved
    rw [seek_of_live live, if_pos hmoved, requests_fetchFrom, ← hgeometry]
    rfl
  · obtain ⟨hcompleted, hsize, -⟩ := hstays.1 hstayed
    refine effects_run_seeks live tries fun q hq => ?_
    obtain ⟨hahead, hlookahead⟩ := hnear q hq
    rw [← hsettings] at hlookahead
    exact needsRestart_of_completed hcompleted hsize hahead hlookahead
  · have hrefused : b.accepting = false :=
      (accepting_after url settings cache calls).trans (isPlaced_of_error answered error)
    rw [step, deliver, receive, hrefused, Bool.not_false, Bool.or_true, if_pos rfl]

/-- An error that came in whole, before anything else was known. The start of the resource
is not asked for again, however often a reader tries; a position past the lookahead is. -/
theorem error_answer_retried_iff_unavailable :
    let b := (withCache ⟨[], [], [], none, none, .rigid [], none, none⟩ ⟨2, 4, 8, 0⟩
      (.empty "" ⟨2⟩ 8)).after
        [.begin, .deliver 1 (.head ⟨503, none, none⟩), .deliver 1 (.ended .completed)]
    (b.fill 0 [0]).1 = none ∧ (b.seek 0).1 = false ∧ (b.run ([0, 4, 0].map .seek)).2 = [] ∧
      (b.fill 5 [0]).1 = none ∧ (b.seek 5).1 = true ∧
      (requests (b.seek 5).2.2).map (·.offset) = [4] := by
  intro b
  have sized := Cache.sized_empty "" ⟨2⟩ 8
  have live : b.stopped = false := by decide
  have answered : b.response = some ⟨503, none, none⟩ := by decide
  have completed : b.window.phase = .completed := by decide
  have unknown : b.size? = none := by decide
  have inside : ∀ p total, b.size? = some total → p < total := fun p total htotal =>
    absurd (unknown.symm.trans htotal) nofun
  have hstart : (b.fill 0 [0]).1 = none := by decide
  have hbeyond : (b.fill 5 [0]).1 = none := by decide
  obtain ⟨hstays, -, hnever, -⟩ := error_answer_retried_iff _ _ sized _ live answered (by decide)
    (.inl completed) 0 (inside 0) 0 hstart
  obtain ⟨hstays', hrequest, -, -⟩ := error_answer_retried_iff _ _ sized _ live answered
    (by decide) (.inl completed) 5 (inside 5) 0 hbeyond
  have hstayed : (b.seek 0).1 = false := hstays.2 ⟨completed, unknown, by decide, by decide⟩
  have hmoved : (b.seek 5).1 = true := by
    rw [← Bool.not_eq_false, hstays']
    rintro ⟨-, -, -, hnear⟩
    exact absurd hnear (by decide)
  exact ⟨hstart, hstayed, hnever hstayed [0, 4, 0] (by decide), hbeyond, hmoved,
    congrArg (List.map (·.offset)) (hrequest hmoved)⟩

end ReadAhead.Buffer
