/-
What a buffer tells its client, and what the client may conclude. Two notices are sent:
that the first answer is in, and that a transfer ended. Both are about the buffer's own
state, so a client that hears every notice knows of a change without looking: a buffer
becomes initialized when it says so and never again, and a transfer that is on its way
is so until its end is told. Another one takes its place where one is started, and
seeks are what starts them.
-/
import ReadAhead.Proofs.Buffer.Restart

set_option autoImplicit false

namespace ReadAhead.Buffer

variable {b b' : Buffer} {call : Call} {effects : List Effect}

/-! ## The first answer -/

/-- The effects tell that the first answer is in. -/
def Announces (effects : List Effect) : Prop := ∃ success, .initialized success ∈ effects

theorem announces_append {effects later : List Effect} :
    Announces (effects ++ later) ↔ Announces effects ∨ Announces later := by
  simp only [Announces, List.mem_append, exists_or]

/-- Starting a transfer announces nothing. -/
theorem not_announces_fetchFrom (b : Buffer) (position : Nat) :
    ¬ Announces (b.fetchFrom position).2 := by
  rintro ⟨success, hin⟩
  rw [fetchFrom] at hin
  cases hhandle : b.handle <;> simp [hhandle] at hin

/-- **A buffer becomes initialized when it says so**, and says so only then. -/
theorem initialized_change (h : Change b call b' effects) :
    (b'.initialized = true ↔ b.initialized = true ∨ Announces effects) ∧
      (b.initialized = true → ¬ Announces effects) := by
  have hnone : ¬ Announces [] := by
    rintro ⟨success, hin⟩
    exact absurd hin List.not_mem_nil
  cases h with
  | declined | stayed | stopped => exact ⟨(or_iff_left hnone).symm, fun _ => hnone⟩
  | began | moved =>
    have hstart := not_announces_fetchFrom
    exact ⟨(or_iff_left (hstart _ _)).symm, fun _ => hstart _ _⟩
  | headed fetch head =>
    cases hfirst : b.initialized with
    | false => simp [Announces]
    | true => simpa using hnone
  | stored fetch bytes =>
    rw [trim_eq]
    exact ⟨(or_iff_left hnone).symm, fun _ => hnone⟩
  | ended fetch status =>
    cases hfirst : b.initialized <;> simp [Announces]

/-- **In a run a buffer becomes initialized when it says so**, and says so only then. -/
theorem initialized_run (b : Buffer) (calls : List Call) :
    ((b.after calls).initialized = true ↔ b.initialized = true ∨ Announces (b.run calls).2) ∧
      (b.initialized = true → ¬ Announces (b.run calls).2) := by
  induction calls generalizing b with
  | nil =>
    have hnone : ¬ Announces (b.run []).2 := by
      rintro ⟨success, hin⟩
      exact absurd hin List.not_mem_nil
    exact ⟨(or_iff_left hnone).symm, fun _ => hnone⟩
  | cons call rest ih =>
    obtain ⟨hfirst, honce⟩ := initialized_change (change_step b call)
    obtain ⟨hrest, hlater⟩ := ih (b.step call).1
    rw [effects_run_cons, after_cons, announces_append, hrest, hfirst, or_assoc]
    refine ⟨Iff.rfl, fun hb => ?_⟩
    rintro (hnow | hthen)
    · exact honce hb hnow
    · exact hlater (hfirst.2 (.inl hb)) hthen

/-! ## The end of a transfer -/

/-- **A transfer that is on its way stays so until its end is told**, or another one
takes its place. -/
theorem fetching_change (h : Change b call b' effects) (hb : b.window.phase = .fetching) :
    b'.window.phase = .fetching ∨ .ended ∈ effects := by
  cases h with
  | declined | stayed | stopped => exact .inl hb
  | began | moved => exact .inl rfl
  | headed fetch head =>
    dsimp only
    rw [phase_accept]
    exact .inl hb
  | stored fetch bytes =>
    rw [window_trim]
    exact .inl hb
  | ended fetch status => cases b.initialized <;> simp

theorem fetching_run (hb : b.window.phase = .fetching) (calls : List Call) :
    (b.after calls).window.phase = .fetching ∨ .ended ∈ (b.run calls).2 := by
  induction calls generalizing b with
  | nil => exact .inl hb
  | cons call rest ih =>
    rw [effects_run_cons, after_cons, List.mem_append]
    rcases fetching_change (change_step b call) hb with hstill | hended
    · exact (ih hstill).imp_right .inr
    · exact .inr (.inl hended)

/-! ## Which transfer it is -/

/-- **Transfers are counted as they are started.** -/
theorem attempt_change (h : Change b call b' effects) :
    b'.window.attempt = b.window.attempt + (requests effects).length := by
  cases h with
  | declined | stayed | stopped => rfl
  | began | moved =>
    rw [requests_fetchFrom]
    rfl
  | headed fetch head =>
    dsimp only
    rw [attempt_accept]
    cases b.initialized <;> rfl
  | stored fetch bytes =>
    rw [window_trim]
    rfl
  | ended fetch status => cases b.initialized <;> rfl

theorem attempt_after (b : Buffer) (calls : List Call) :
    (b.after calls).window.attempt = b.window.attempt + (requests (b.run calls).2).length := by
  induction calls generalizing b with
  | nil => rfl
  | cons call rest ih =>
    rw [after_cons, ih, attempt_change (change_step b call), effects_run_cons, requests_append,
      List.length_append, Nat.add_assoc]

/-- **Only seeks start a transfer**, once there is one. -/
theorem requests_change_eq_nil (h : Change b call b' effects)
    (hseek : ∀ position, call ≠ .seek position) (hbegin : call = .begin → b.window.phase ≠ .idle) :
    requests effects = [] := by
  cases h with
  | declined | stayed | stopped | stored => rfl
  | began live idle => exact absurd idle (hbegin rfl)
  | moved position => exact absurd rfl (hseek position)
  | headed | ended => cases b.initialized <;> rfl

theorem requests_run_eq_nil (calls : List Call)
    (hseek : ∀ call ∈ calls, ∀ position, call ≠ .seek position)
    (hbegin : .begin ∈ calls → b.window.phase ≠ .idle) : requests (b.run calls).2 = [] := by
  induction calls generalizing b with
  | nil => rfl
  | cons call rest ih =>
    have hchange := change_step b call
    have hfirst : requests (b.step call).2 = [] := by
      refine requests_change_eq_nil hchange (hseek call List.mem_cons_self) ?_
      rintro rfl
      exact hbegin List.mem_cons_self
    have hrest := ih (b := (b.step call).1)
      (fun other hin => hseek other (List.mem_cons_of_mem _ hin))
      fun hin hidle => hbegin (List.mem_cons_of_mem _ hin) ((idle_iff_change hchange).1 hidle).1
    rw [effects_run_cons, requests_append, hfirst, hrest]
    rfl

end ReadAhead.Buffer
