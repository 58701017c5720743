/-
Delayed tasks of any kind, by their numbers. A number is in the queue, cancelled or not, or
among the timers; `stages` has them all, and the runner counts as unfinished just these. The
numbers that are not cancelled are the live ones.

An operation takes a number from one place to another, and only running a task or throwing a
cancelled one away takes it off the books. What is said here holds of any delays and any
tasks, as long as no number is in two places.
-/
import ReadAhead.Proofs.Runner.Posted

set_option autoImplicit false

namespace ReadAhead.Runner

variable {τ : Type} {r : Runner τ}

/-- The delayed task that a job is a stage of, be it cancelled or not. -/
def Job.stage? : Job τ → Option TimerId
  | .arm timer _ _ | .fire timer _ | .discard timer => some timer
  | .run _ => none

/-- The delayed tasks that the runner is not done with. -/
def stages (r : Runner τ) : List TimerId := staged Job.stage? r

theorem live_sublist_stages (r : Runner τ) : List.Sublist r.live r.stages := by
  refine List.Sublist.append_right ?_ _
  induction r.queue with
  | nil => exact List.Sublist.refl []
  | cons job rest ih =>
    cases job with
    | run => exact ih
    | arm timer | fire timer => exact ih.cons_cons timer
    | discard timer => exact ih.cons timer

/-! ## Posting -/

/-- Posting a delayed task is queueing its first stage. -/
theorem snd_postDelayed (side : Side) (delay : Nat) (task : τ) (up : r.down = false) :
    (r.postDelayed side delay task).2 =
      ({ r with
        issued := r.issued + 1
        unfinished := r.unfinished ++ [r.issued] } : Runner τ).enqueue
          side (.arm r.issued delay task) := by
  simp [postDelayed, up]

/-! ## Cancelling -/

section

variable (timer : TimerId)

theorem Job.stage?_cancel (job : Job τ) : (job.cancel timer).stage? = job.stage? := by
  cases job with
  | run => rfl
  | arm id | fire id | discard id =>
    unfold Job.cancel Job.belongsTo
    by_cases h : id = timer <;> simp [Job.stage?, h]

/-- **Cancelling takes no number off the books**: the runner has still to come by. -/
theorem stages_cancel (side : Side) (up : r.down = false) (distinct : r.stages.Nodup) :
    (r.cancel side timer).stages.Perm r.stages := by
  rw [cancel_eq]
  split
  · next htimers =>
    -- The number moves from the timers into the queue.
    have hids : (r.timers.map (·.id)).Nodup := distinct.sublist (List.sublist_append_right _ _)
    have hunset : (r.unset timer).stages =
        r.queue.filterMap Job.stage? ++ (r.timers.map (·.id)).erase timer := by
      rw [hids.erase_eq_filter, List.filter_map]
      rfl
    refine (staged_enqueue side (.discard timer) Job.stage? (r := r.unset timer) up).trans ?_
    change (timer :: (r.unset timer).stages).Perm r.stages
    rw [hunset]
    exact List.perm_middle.symm.trans (List.Perm.append_left _ (List.perm_cons_erase htimers).symm)
  · have hqueue : (r.unqueued timer).queue.filterMap Job.stage? = r.queue.filterMap Job.stage? := by
      rw [queue_unqueued, List.filterMap_map]
      exact congrArg (r.queue.filterMap ·) (funext (Job.stage?_cancel timer))
    refine List.Perm.of_eq ?_
    show (r.unqueued timer).queue.filterMap Job.stage? ++ r.timers.map (·.id) = r.stages
    rw [hqueue]
    rfl

/-- A job of a runner where a number was cancelled: a leftover of it, or one that was there. -/
theorem mem_queue_cancel {side : Side} (up : r.down = false) {job : Job τ}
    (h : job ∈ (r.cancel side timer).queue) : job = .discard timer ∨ job ∈ r.queue := by
  rw [cancel_eq] at h
  split at h
  · exact (mem_queue_enqueue side (.discard timer) (r := r.unset timer) up).1 h
  · rw [queue_unqueued] at h
    obtain ⟨old, hold, rfl⟩ := List.mem_map.1 h
    unfold Job.cancel
    split
    · exact .inl rfl
    · exact .inr hold

end

end ReadAhead.Runner
