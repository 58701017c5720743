/-
Histories of a runner, from the first call on. At every point of one the runner is running or
has ended, and `Orderly` is what follows from it for somebody who only calls: what runs and in
which order, when a delayed task runs and when it never will, and what is left once a shutdown
has done its work.

The order of tasks is the order of the posts on each side. Between what tasks post and what is
posted from outside there is none: the runner turns to either, in whatever order it was posted.
-/
import ReadAhead.Proofs.Runner.Turns
import ReadAhead.Runner.Script
import Mathlib.Data.List.Nodup

set_option autoImplicit false

namespace ReadAhead.Runner.Journal

variable {j : Journal}

theorem running_fresh : Running fresh where
  known := nofun
  ordered := fun _ => List.prefix_rfl
  firedOnce := List.nodup_nil
  firedKnown := nofun
  cancelledKnown := nofun
  timely := nofun
  seenOnce := List.nodup_nil
  seenKnown := nofun
  up := rfl
  prompt := rfl
  issued := rfl
  jobs := nofun
  timers := nofun
  distinct := List.nodup_nil
  numbered := nofun
  unfinished := fun _ => Iff.rfl
  kept := fun side => by cases side <;> rfl
  accounted := nofun
  apart := nofun

/-! ## After the end -/

theorem enqueue_of_down {r : Runner Errand} (side : Side) (job : Job Errand)
    (h : r.down = true) : r.enqueue side job = r :=
  if_pos h

/-- There is nothing left to cancel. -/
theorem cancel_of_empty {r : Runner Errand} (side : Side) (timer : TimerId)
    (h : r.shutdown = r) : r.cancel side timer = r := by
  rw [← h]
  rfl

/-- **A runner that has ended stays so**: nothing runs, and nothing is left to run. -/
theorem Ended.move (h : Ended j) (move : Move) :
    Ended (j.move move) ∧ (j.move move).ran = j.ran := by
  have hposted : ∀ side job, j.runner.enqueue side job = j.runner := fun side job =>
    enqueue_of_down side job h.down
  -- Whatever is called, the past grows by what was asked for and by nothing that happened.
  have hkept : ∀ k : Journal, k.runner.down = true → k.runner.shutdown = k.runner →
      Extends j k → k.ran = j.ran → k.seen = j.seen →
      (∀ timer ∈ k.cancelled, timer < k.delays.length) → Ended k ∧ k.ran = j.ran :=
    fun k hdown hempty hx hran hseen hcancelled =>
      ⟨⟨h.toSound.mono hx hran hseen hcancelled, hdown, hempty⟩, hran⟩
  have hsame : ∀ runner : Runner Errand, runner.down = true → runner.shutdown = runner →
      j.runner.now ≤ runner.now → Ended { j with runner } ∧ j.ran = j.ran :=
    fun runner hdown hempty hnow => hkept { j with runner } hdown hempty
      ⟨List.prefix_rfl, List.prefix_rfl, fun _ hin => hin, hnow⟩ rfl rfl h.cancelledKnown
  have hempty := h.empty
  cases move with
  | post side =>
    have hrunner : (j.move (.post side)).runner = j.runner := hposted side _
    exact hkept _ (hrunner.symm ▸ h.down) (hrunner.symm ▸ h.empty)
      ⟨List.prefix_append _ _, List.prefix_rfl, fun _ hin => hin, Nat.le_of_eq (hrunner ▸ rfl)⟩
      rfl rfl h.cancelledKnown
  | postDelayed side delay =>
    have hrunner : (j.move (.postDelayed side delay)).runner =
        { j.runner with issued := j.runner.issued + 1 } := by
      simp only [Journal.move, Runner.postDelayed, h.down, if_true]
      exact enqueue_of_down side _ rfl
    refine hkept _ (hrunner.symm ▸ h.down) ?_
      ⟨List.prefix_rfl, List.prefix_append _ _, fun _ hin => hin, Nat.le_of_eq (hrunner ▸ rfl)⟩
      rfl rfl fun timer hin => ?_
    · rw [hrunner]
      exact congrArg (fun r : Runner Errand => { r with issued := r.issued + 1 }) hempty
    · exact Nat.lt_of_lt_of_le (h.cancelledKnown timer hin)
        (List.prefix_append j.delays [delay]).length_le
  | cancel side timer =>
    by_cases hknown : timer < j.delays.length
    · have hmove : j.move (.cancel side timer) =
          { j with cancelled := j.cancelled ++ [timer] } := by
        rw [Journal.move, if_pos hknown, cancel_of_empty side timer hempty]
      rw [hmove]
      refine hkept _ h.down h.empty
        ⟨List.prefix_rfl, List.prefix_rfl, fun _ hin => hin, Nat.le_refl _⟩ rfl rfl
        fun other hin => ?_
      rcases List.mem_append.1 hin with hold | hnew
      · exact h.cancelledKnown other hold
      · exact List.mem_singleton.1 hnew ▸ hknown
    · rw [Journal.move, if_neg hknown]
      exact ⟨h, rfl⟩
  | advance ms =>
    exact hsame (j.runner.advance ms) h.down
      (congrArg (fun r : Runner Errand => r.advance ms) hempty) (Nat.le_add_right _ _)
  | hold =>
    exact hsame j.runner.hold h.down (congrArg Runner.hold hempty) (Nat.le_refl _)
  | release =>
    exact hsame j.runner.release h.down (congrArg Runner.release hempty) (Nat.le_refl _)
  | shutdown =>
    exact hsame j.runner.close h.down (congrArg Runner.close hempty) (Nat.le_refl _)
  | step choice =>
    have hidle : j.step choice = j := if_neg (by simp [isBusy, h.down])
    show Ended (j.step choice) ∧ (j.step choice).ran = j.ran
    rw [hidle]
    exact ⟨h, rfl⟩

theorem Ended.play (h : Ended j) (moves : List Move) :
    Ended (j.play moves) ∧ (j.play moves).ran = j.ran := by
  induction moves generalizing j with
  | nil => exact ⟨h, rfl⟩
  | cons move rest ih =>
    obtain ⟨hmove, hran⟩ := h.move move
    obtain ⟨hrest, hsame⟩ := ih hmove
    exact ⟨hrest, hsame.trans hran⟩

/-! ## Histories -/

/-- Only a step ends a runner. -/
theorem Running.move (h : Running j) (move : Move) :
    Running (j.move move) ∨ Ended (j.move move) := by
  cases move with
  | post side => exact .inl (running_post h side)
  | postDelayed side delay => exact .inl (running_postDelayed h side delay)
  | cancel side timer => exact .inl (running_cancel h side timer)
  | advance ms => exact .inl (h.of_clock (Nat.le_add_right _ _))
  | hold | release | shutdown => exact .inl (h.of_clock (Nat.le_refl _))
  | step choice => exact h.step choice

/-- **What the journal says holds at any point of any history.** -/
theorem kept_play (h : Running j) (moves : List Move) :
    Running (j.play moves) ∨ Ended (j.play moves) := by
  induction moves generalizing j with
  | nil => exact .inl h
  | cons move rest ih =>
    rcases h.move move with hrunning | hended
    · exact ih hrunning
    · exact .inr (hended.play rest).1

/-- **A runner was asked to end** by a shutdown, and by nothing else. -/
theorem closing_move (j : Journal) (move : Move) :
    (j.move move).runner.closing = true ↔ j.runner.closing = true ∨ move = .shutdown := by
  have hsame : ∀ runner : Runner Errand, runner.closing = j.runner.closing →
      move ≠ .shutdown → (runner.closing = true ↔ j.runner.closing = true ∨ move = .shutdown) := by
    intro runner hclosing hmove
    rw [hclosing, or_iff_left hmove]
  cases move with
  | post side => exact hsame _ (j.runner.enqueue_same side _).2.2.2.2.2.2 nofun
  | postDelayed side delay => exact hsame _ (enqueue_same _ side _).2.2.2.2.2.2 nofun
  | cancel side timer =>
    rw [Journal.move]
    split
    · exact hsame _ (j.runner.cancel_same side timer).2.2.2.2.2.2 nofun
    · exact hsame _ rfl nofun
  | advance | hold | release => exact hsame _ rfl nofun
  | shutdown => exact iff_of_true rfl (.inr rfl)
  | step choice =>
    show (j.step choice).runner.closing = true ↔ _
    refine hsame _ ?_ nofun
    rcases j.step_eq choice with hstep | ⟨side, job, s, hs, hstep⟩ | hstep
    · rw [hstep]
    · rw [hstep, ← hs.closing]
      cases job <;> rfl
    · rw [hstep]
      show j.runner.lookUp.closing = j.runner.closing
      rw [lookUp]
      split
      · next hclosing => exact hclosing.symm
      · rfl

theorem closing_play (j : Journal) (moves : List Move) :
    (j.play moves).runner.closing = true ↔ j.runner.closing = true ∨ .shutdown ∈ moves := by
  induction moves generalizing j with
  | nil => exact (or_iff_left List.not_mem_nil).symm
  | cons move rest ih =>
    rw [show j.play (move :: rest) = (j.move move).play rest from rfl, ih, closing_move, or_assoc,
      List.mem_cons, eq_comm (a := move)]

/-! ## At rest -/

/-- **A running runner at rest** has nothing queued and no timer that is due, and was not asked
to end. -/
theorem Running.idle (h : Running j) (hrests : j.Rests) :
    j.runner.queue = [] ∧ (∀ timer ∈ j.runner.timers, j.runner.now ≤ timer.due) ∧
      j.runner.closing = false := by
  obtain ⟨hbusy, hheld⟩ := hrests
  simp only [isBusy, hheld, h.up, Bool.not_false, Bool.true_and, Bool.or_eq_false_iff,
    Bool.not_eq_false', Bool.and_eq_true, List.isEmpty_iff, List.all_eq_true, Timer.isDue,
    Bool.not_eq_true', decide_eq_false_iff_not, Nat.not_lt] at hbusy
  obtain ⟨hlasting, ⟨⟨hown, hforeign⟩, -⟩, htimers⟩ := hbusy
  exact ⟨by rw [queue, hown, hforeign, List.append_nil], htimers, hlasting⟩

/-- All that is left is on the timers. -/
theorem Running.live_of_rests (h : Running j) (hrests : j.Rests) :
    j.runner.live = j.runner.timers.map (·.id) ∧ j.runner.stages = j.runner.live := by
  obtain ⟨hqueue, -⟩ := h.idle hrests
  rw [stages, staged, live, hqueue]
  exact ⟨rfl, rfl⟩

/-- Whatever was posted has run. -/
theorem Running.done_of_rests (h : Running j) (hrests : j.Rests) {number : Nat}
    (hknown : number < j.posted.length) : number ∈ j.done := by
  obtain ⟨hqueue, -⟩ := h.idle hrests
  obtain ⟨hown, hforeign⟩ := List.append_eq_nil_iff.1 hqueue
  have hnone : ∀ side, plains j.runner side = [] := by
    intro side
    cases side with
    | inside => rw [plains, postedFrom, jobsFrom, hown]; rfl
    | outside => rw [plains, postedFrom, jobsFrom, hforeign]; rfl
  have hside : j.posted[number]? = some j.posted[number] := List.getElem?_eq_getElem hknown
  have hin : number ∈ j.postedOn j.posted[number] :=
    List.mem_filter.2 ⟨List.mem_range.2 hknown, decide_eq_true hside⟩
  rw [← h.kept, hnone, List.append_nil] at hin
  exact (List.mem_filter.1 hin).1

/-- A delayed task that was not cancelled was seen, and has run if its delay has passed. -/
theorem Running.fired_of_rests (h : Running j) (hrests : j.Rests) {timer : TimerId}
    (hknown : timer < j.delays.length) (hkept : timer ∉ j.cancelled) :
    ∃ since delay, (timer, since) ∈ j.seen ∧ j.delays[timer]? = some delay ∧
      (since + delay < j.runner.now → timer ∈ j.fired) := by
  rcases h.accounted timer hknown with hlive | hfired | hcancelled
  · rw [(h.live_of_rests hrests).1] at hlive
    obtain ⟨set, hset, rfl⟩ := List.mem_map.1 hlive
    obtain ⟨-, since, delay, hseen, hdelay, hdue⟩ := h.timers set hset
    refine ⟨since, delay, hseen, hdelay, fun hpassed => ?_⟩
    have hlate := (h.idle hrests).2.1 set hset
    omega
  · obtain ⟨⟨task, time⟩, hran, htask⟩ := List.mem_filterMap.1 hfired
    obtain rfl : task = .delayed timer := by
      cases task with
      | plain => exact absurd htask nofun
      | delayed other => exact congrArg Errand.delayed (Option.some.inj htask)
    obtain ⟨since, delay, hseen, hdelay, -⟩ := h.timely timer time hran
    exact ⟨since, delay, hseen, hdelay, fun _ => hfired⟩
  · exact absurd hcancelled hkept

/-- A delayed task is finished if it has run or was cancelled. -/
theorem Running.finished_of_rests (h : Running j) (hrests : j.Rests) {timer : TimerId}
    (hknown : timer < j.delays.length) :
    j.runner.isFinished timer = true ↔ timer ∈ j.fired ∨ timer ∈ j.cancelled := by
  have hlive : timer ∈ j.runner.unfinished ↔ timer ∈ j.runner.live := by
    rw [h.unfinished, (h.live_of_rests hrests).2]
  rw [isFinished, Bool.not_eq_true', ← Bool.not_eq_true, List.contains_iff_mem, hlive]
  constructor
  · exact fun hgone => (h.accounted timer hknown).resolve_left hgone
  · rintro hpast hin
    obtain ⟨hnever, hkept⟩ := h.apart timer hin
    exact hpast.elim hnever hkept

/-! ## What never happens -/

/-- **A change runs one task at most**, and a delayed one only if it is live. -/
theorem ran_move (j : Journal) (move : Move) :
    ∃ task : Option Errand,
      (j.move move).ran = j.ran ++ task.toList.map (·, j.runner.now) := by
  have hnone : j.ran = j.ran ++ (none : Option Errand).toList.map (·, j.runner.now) :=
    (List.append_nil _).symm
  cases move with
  | post | postDelayed | advance | hold | release | shutdown => exact ⟨none, hnone⟩
  | cancel side timer =>
    refine ⟨none, ?_⟩
    rw [Journal.move]
    split <;> exact hnone
  | step choice =>
    show ∃ task : Option Errand, (j.step choice).ran = _
    rcases j.step_eq choice with hstep | ⟨side, job, s, hs, hstep⟩ | hstep
    · exact ⟨none, hstep.symm ▸ hnone⟩
    · exact ⟨(s.perform job).1, hstep.symm ▸ rfl⟩
    · exact ⟨none, hstep.symm ▸ rfl⟩

/-- A delayed task that runs in a step was live before. -/
theorem Running.fired_move (h : Running j) {move : Move} {timer : TimerId}
    (hfired : timer ∈ (j.move move).fired) : timer ∈ j.fired ∨ timer ∈ j.runner.live := by
  have hstep : ∀ runner seen ran gone, Turn j runner seen ran gone →
      timer ∈ (j.noted runner seen ran).fired → timer ∈ j.fired ∨ timer ∈ j.runner.live := by
    intro runner seen ran gone hturn hin
    rw [fired_noted] at hin
    exact (List.mem_append.1 hin).imp_right fun hran =>
      hturn.live.mem_iff.2 (List.mem_append_left _ hran)
  cases move with
  | post | postDelayed | advance | hold | release | shutdown => exact .inl hfired
  | cancel side other =>
    rw [Journal.move] at hfired
    split at hfired <;> exact .inl hfired
  | step choice =>
    change timer ∈ (j.step choice).fired at hfired
    rcases j.step_eq choice with heq | ⟨side, job, s, hs, heq⟩ | heq
    · exact .inl (heq ▸ hfired)
    · exact hstep _ _ _ _ (h.turn_perform hs) (heq ▸ hfired)
    · rw [heq, fired_noted, Option.bind_none, Option.toList_none, List.append_nil] at hfired
      exact .inl hfired

theorem cancelled_move {move : Move} {timer : TimerId} (hin : timer ∈ j.cancelled) :
    timer ∈ (j.move move).cancelled := by
  cases move with
  | post | postDelayed | advance | hold | release | shutdown => exact hin
  | cancel side other =>
    rw [move]
    split
    · exact List.mem_append_left _ hin
    · exact hin
  | step choice =>
    show timer ∈ (j.step choice).cancelled
    rw [step]
    split <;> exact hin

/-- **A task that was cancelled before it ran never runs.** -/
theorem Running.never_fired (h : Running j) {timer : TimerId} (hcancelled : timer ∈ j.cancelled)
    (hfired : timer ∉ j.fired) (moves : List Move) : timer ∉ (j.play moves).fired := by
  induction moves generalizing j with
  | nil => exact hfired
  | cons move rest ih =>
    have hmove : timer ∉ (j.move move).fired := by
      intro hin
      rcases h.fired_move hin with hold | hlive
      · exact hfired hold
      · exact (h.apart timer hlive).2 hcancelled
    rcases h.move move with hrunning | hended
    · exact ih hrunning (cancelled_move hcancelled) hmove
    · show timer ∉ ((j.move move).play rest).fired
      rw [fired, (hended.play rest).2]
      exact hmove

/-- **No task without a delay runs twice.** Each was posted on one side, and on each side those
that have run are the first that were posted. -/
theorem Sound.once (h : Sound j) : j.done.Nodup := by
  refine List.nodup_iff_count_le_one.2 fun number => ?_
  by_cases hin : number ∈ j.done
  · obtain ⟨side, hside⟩ : ∃ side, j.posted[number]? = some side :=
      ⟨_, List.getElem?_eq_getElem (h.known number hin)⟩
    have hnodup : (j.doneOn side).Nodup :=
      (List.nodup_range.filter _).sublist (h.ordered side).sublist
    rw [← List.count_filter (p := (j.posted[·]? = some side)) (decide_eq_true hside)]
    exact List.nodup_iff_count_le_one.1 hnodup number
  · rw [List.count_eq_zero_of_not_mem hin]
    exact Nat.zero_le 1

/-! ## What is promised -/

/-- What a runner does with what it was asked, up to some point of its history and from there
on; `asked` says whether a shutdown was among it. That the runner is `down` says that it has
ended, as it has when a shutdown returns that waits for it. -/
structure Orderly (j : Journal) (asked : Prop) : Prop where
  /-- Tasks run one at a time. -/
  single : ∀ move, ∃ task : Option Errand,
    (j.move move).ran = j.ran ++ task.toList.map (·, j.runner.now)
  /-- A task without a delay runs once at most. -/
  once : j.done.Nodup
  posted : ∀ number ∈ j.done, number < j.posted.length
  /-- Of those that are posted on one side, the ones that have run are the first, in order. -/
  ordered : ∀ side, j.doneOn side <+: j.postedOn side
  /-- All of them have run when the runner comes to rest. -/
  complete : j.Rests → ¬ asked → ∀ number < j.posted.length, number ∈ j.done
  /-- A delayed task runs once at most. -/
  firedOnce : j.fired.Nodup
  /-- It is first seen at one time only. -/
  seenOnce : (j.seen.map Prod.fst).Nodup
  /-- When it runs, its delay has passed since then. -/
  timely : ∀ timer time, (.delayed timer, time) ∈ j.ran → ∃ since delay,
    (timer, since) ∈ j.seen ∧ j.delays[timer]? = some delay ∧ since + delay < time
  /-- Cancelled before, it never runs. -/
  never : ∀ timer ∈ j.cancelled, timer ∉ j.fired → ∀ later, timer ∉ (j.play later).fired
  /-- Not cancelled, it was seen when the runner comes to rest, and has run if its delay has
  passed since. -/
  prompt : j.Rests → ¬ asked → ∀ timer < j.delays.length, timer ∉ j.cancelled →
    ∃ since delay, (timer, since) ∈ j.seen ∧ j.delays[timer]? = some delay ∧
      (since + delay < j.runner.now → timer ∈ j.fired)
  /-- Only a shutdown ends a runner. -/
  reason : j.runner.down = true → asked
  /-- Asked to end, it ends when it looks at the clock, and it has ended when it comes to rest. -/
  ends : asked → (j.runner.held = false → (j.move (.step .clock)).runner.down = true) ∧
    (j.Rests → j.runner.down = true)
  /-- Once it has ended nothing runs any more, whatever was queued and whatever is posted. -/
  stays : j.runner.down = true → ∀ later,
    (j.play later).ran = j.ran ∧ (j.play later).runner.down = true
  /-- Further shutdowns change nothing. -/
  idempotent : asked → j.move .shutdown = j
  /-- At rest, a delayed task is finished if it has run, was cancelled or was dropped. -/
  finished : j.Rests → ∀ timer < j.delays.length,
    (j.runner.isFinished timer = true ↔ timer ∈ j.fired ∨ timer ∈ j.cancelled ∨ asked)

/-- Asked to end once more, a runner is as it was. -/
theorem move_shutdown_of_closing (h : j.runner.closing = true) : j.move .shutdown = j := by
  have hclose : j.runner.close = j.runner := by
    rw [close, ← h]
  show ({ j with runner := j.runner.close } : Journal) = j
  rw [hclose]

theorem Running.orderly (h : Running j) : Orderly j (j.runner.closing = true) where
  single := ran_move j
  once := h.once
  posted := h.known
  ordered := h.ordered
  complete := fun hrests _ _ hknown => h.done_of_rests hrests hknown
  firedOnce := h.firedOnce
  seenOnce := h.seenOnce
  timely := h.timely
  never := fun _ hcancelled hfired later => h.never_fired hcancelled hfired later
  prompt := fun hrests _ _ hknown hkept => h.fired_of_rests hrests hknown hkept
  reason := fun hdown => absurd (h.up.symm.trans hdown) Bool.false_ne_true
  ends := by
    intro hclosing
    refine ⟨fun hheld => ?_, fun hrests => ?_⟩
    · have hbusy : j.runner.isBusy = true := by simp [isBusy, hheld, h.up, hclosing]
      show (j.step .clock).runner.down = true
      rw [Journal.step, if_pos hbusy]
      show j.runner.lookUp.down = true
      rw [lookUp, if_pos hclosing]
      rfl
    · exact absurd ((h.idle hrests).2.2.symm.trans hclosing) Bool.false_ne_true
  stays := fun hdown => absurd (h.up.symm.trans hdown) Bool.false_ne_true
  idempotent := move_shutdown_of_closing
  finished := fun hrests _ hknown => by
    rw [h.finished_of_rests hrests hknown, (h.idle hrests).2.2]
    simp only [Bool.false_eq_true, or_false]

theorem Ended.orderly (h : Ended j) : Orderly j (j.runner.closing = true) where
  single := ran_move j
  once := h.once
  posted := h.known
  ordered := h.ordered
  complete := fun _ hlasting => absurd (congrArg Runner.closing h.empty).symm hlasting
  firedOnce := h.firedOnce
  seenOnce := h.seenOnce
  timely := h.timely
  never := fun timer _ hfired later => by rwa [fired, (h.play later).2]
  prompt := fun _ hlasting => absurd (congrArg Runner.closing h.empty).symm hlasting
  reason := fun _ => (congrArg Runner.closing h.empty).symm
  ends := fun _ => ⟨fun _ => (h.move (.step .clock)).1.down, fun _ => h.down⟩
  stays := fun _ later => ⟨(h.play later).2, (h.play later).1.down⟩
  idempotent := move_shutdown_of_closing
  finished := fun _ timer _ => by
    have hnone : timer ∉ j.runner.unfinished := h.empty ▸ List.not_mem_nil
    have hclosing : j.runner.closing = true := (congrArg Runner.closing h.empty).symm
    simp [isFinished, hnone, hclosing]

end ReadAhead.Runner.Journal
