/-
The runner of a session drains. A task that waits costs one step, and every read that is
asked for inside an answer may bring one task more; so a session counts both, the tasks and
the reads that the pending one can bring about. What a step hands out it takes from that
count, and what is asked inside the answer never puts back as much.
-/
import ReadAhead.Proofs.File.Course

set_option autoImplicit false

namespace ReadAhead.FileSource.Session

variable {s t : Session}

/-- Number of reads that the pending read's answer can bring about. -/
def followUps (s : Session) : Nat := (s.pending?.map (·.followUps.count)).getD 0

theorem work_eq (h : s.render.Plain) : s.work = s.render.posted.length + s.followUps := by
  rw [work, h.load_eq]
  rfl

/-! ## Asking and taking -/

theorem plain_ask (h : s.render.Plain) (place : Place) (plan : Plan) :
    (s.ask place plan).render.Plain :=
  (steps_ask s place plan).induction (fun _ _ => plain_step) h

/-- **Asking** adds no more than the reads that are asked for. The induction is on the
plan. -/
theorem work_ask (h : s.render.Plain) (place : Place) (plan : Plan) :
    (s.ask place plan).work ≤ s.work + plan.count := by
  induction plan generalizing s with
  | done => exact Nat.le_refl _
  | ask first inside rest ihInside ihRest =>
    rw [Plan.count]
    cases hsource : s.source with
    | none =>
      rw [ask_gone hsource]
      omega
    | some source =>
      cases hrefusal : source.refusal? first with
      | some failure =>
        let t := s.turnAway place first failure
        have hinside : (t.ask place inside).work ≤ s.work + inside.count := ihInside (s := t) h
        have hrest := ihRest (s := t.ask place inside) (plain_ask (s := t) h place inside)
        rw [ask_refused hsource place inside rest hrefusal]
        refine Nat.le_trans hrest ?_
        omega
      | none =>
        -- The read takes the place of none, and its task is one more.
        let t := s.accept source place first inside
        have ht : t.render.Plain := h.post _ _
        have hlength : t.render.posted.length = s.render.posted.length + 1 :=
          h.length_posted_post _ _
        have hbefore : s.followUps = 0 := by
          obtain ⟨-, -, hfree⟩ := refusal?_eq_none hrefusal
          rw [followUps, pending?_of_source hsource, hfree]
          rfl
        have hafter : t.followUps = inside.count := rfl
        have hwork : t.work = s.work + inside.count + 1 := by
          rw [work_eq ht, work_eq h]
          omega
        have hrest := ihRest ht
        rw [ask_accepted hsource place inside rest hrefusal]
        refine Nat.le_trans hrest ?_
        omega

/-- **A task that is handed out** is taken off the count, and with an answer goes what is
asked for inside of it. -/
theorem work_turn {choice : Runner.Choice} {inside : Plan} (h : Turn s choice t inside)
    (hs : s.render.Plain) : t.work + inside.count < s.work := by
  rw [work_eq hs, work_eq (plain_turn h hs)]
  cases h with
  | ignored left handed =>
    show left.posted.length + s.followUps + 0 < _
    have hlength := (hs.handed handed).length_posted
    omega
  | completed left handed source read present live waits =>
    show left.posted.length + 0 + read.followUps.count < _
    have hlength := (hs.handed handed).length_posted
    have hwaits : s.followUps = read.followUps.count := by
      rw [followUps, pending?_of_source present, waits]
      rfl
    omega
  | told left tag success handed =>
    show left.posted.length + s.followUps + 0 < _
    have hlength := (hs.handed handed).length_posted
    omega

theorem work_step (hs : s.render.Plain) (waits : s.render.posted ≠ []) {choice : Runner.Choice}
    (hchoice : choice ≠ .clock) : (s.step choice).work < s.work := by
  rcases step_eq hs choice with ⟨-, hnone⟩ | ⟨t, inside, hturn, hstep⟩
  · exact absurd (hnone hchoice) waits
  · have hfirst := work_turn hturn hs
    have hrest := work_ask (plain_turn hturn hs) .render inside
    rw [hstep]
    omega

/-! ## Settling -/

/-- **Whoever steps as often as there is work left** finds the runner drained. -/
theorem settleWithin_eq (hs : s.render.Plain) {fuel : Nat} (enough : s.work ≤ fuel) :
    (∃ n, settleWithin fuel s = s.play (List.replicate n (.step .own))) ∧
      (settleWithin fuel s).render.isBusy = false := by
  induction fuel generalizing s with
  | zero =>
    refine ⟨⟨0, rfl⟩, hs.isBusy_eq_false_iff.2 (List.length_eq_zero_iff.1 ?_)⟩
    rw [work_eq hs] at enough
    omega
  | succ fuel ih =>
    rw [settleWithin]
    cases hbusy : s.render.isBusy with
    | false => exact ⟨⟨0, rfl⟩, hbusy⟩
    | true =>
      have waits : s.render.posted ≠ [] := by
        rw [ne_eq, ← hs.isBusy_eq_false_iff, hbusy]
        exact nofun
      have hstep : Steps s (s.step .own) := steps_move hs (.step .own)
      have hless := work_step hs waits (show Runner.Choice.own ≠ .clock from nofun)
      obtain ⟨⟨n, hn⟩, hdrained⟩ :=
        ih (hstep.induction (fun _ _ => plain_step) hs) (by omega : (s.step .own).work ≤ fuel)
      rw [if_pos rfl]
      exact ⟨⟨n + 1, hn⟩, hdrained⟩

/-- **Settling drains the runner**, and is a run of its steps. -/
theorem settle_eq (hs : s.render.Plain) :
    (∃ n, s.settle = s.play (List.replicate n (.step .own))) ∧ s.settle.render.isBusy = false :=
  settleWithin_eq hs (Nat.le_refl _)

end ReadAhead.FileSource.Session
