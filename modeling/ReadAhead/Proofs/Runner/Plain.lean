/-
Runners that are given tasks and nothing else: no delay, nothing that yields. All there is
to such a runner is its two queues, and each of its steps hands out the first task of one of
them, until none is left, or has a look at the clock and finds nothing there.

A task that is posted from inside stands in front of those from outside, and one from outside
stands behind them all. Either way those that wait keep their order among themselves. The
runner may pass over what waits from inside, and so what stands in front of a task that is
handed out came from there; where the runner looked there first, it is nothing.
-/
import ReadAhead.Proofs.Runner.Posted

set_option autoImplicit false

namespace ReadAhead.Runner

variable {τ : Type}

/-- A runner with these tasks of its own and of others, and nothing else. -/
def given (own foreign : List τ) : Runner τ :=
  { idle with own := own.map .run, foreign := foreign.map .run }

/-- The runner was given tasks and nothing else. -/
def Plain (r : Runner τ) : Prop := ∃ own foreign, r = given own foreign

theorem plain_idle : Plain (idle : Runner τ) := ⟨[], [], rfl⟩

section

variable (own foreign : List τ) (task : τ)

theorem postedFrom_given (side : Side) :
    (given own foreign).postedFrom side = match side with
      | .inside => own
      | .outside => foreign := by
  have hrun : ∀ tasks : List τ, (tasks.map Job.run).filterMap Job.posted? = tasks := by
    intro tasks
    rw [List.filterMap_map]
    exact List.filterMap_some
  cases side <;> exact hrun _

theorem posted_given : (given own foreign).posted = own ++ foreign := by
  rw [posted_eq, postedFrom_given, postedFrom_given]

theorem post_inside_given :
    (given own foreign).post .inside task = given (own ++ [task]) foreign := by
  unfold given
  rw [List.map_append]
  rfl

theorem post_outside_given :
    (given own foreign).post .outside task = given own (foreign ++ [task]) := by
  unfold given
  rw [List.map_append]
  rfl

/-- There is nothing on the clock. -/
theorem lookUp_given : (given own foreign).lookUp = given own foreign := by
  rw [lookUp_of_lasting rfl]
  simp [wake, given, idle]

end

variable {r : Runner τ}

theorem Plain.up (h : r.Plain) : r.down = false := by
  obtain ⟨own, foreign, rfl⟩ := h
  rfl

/-! ## Posting -/

theorem Plain.post (h : r.Plain) (side : Side) (task : τ) : (r.post side task).Plain := by
  obtain ⟨own, foreign, rfl⟩ := h
  cases side with
  | inside => exact ⟨_, _, post_inside_given own foreign task⟩
  | outside => exact ⟨_, _, post_outside_given own foreign task⟩

/-- A task from outside waits behind all others. -/
theorem Plain.posted_post_outside (h : r.Plain) (task : τ) :
    (r.post .outside task).posted = r.posted ++ [task] := by
  obtain ⟨own, foreign, rfl⟩ := h
  rw [post_outside_given, posted_given, posted_given, List.append_assoc]

/-- **A task that is posted** waits somewhere among the others, which keep their order. -/
theorem Plain.posted_post (h : r.Plain) (side : Side) (task : τ) :
    ∃ front back, r.posted = front ++ back ∧ (r.post side task).posted = front ++ task :: back := by
  cases side with
  | inside =>
    obtain ⟨own, foreign, rfl⟩ := h
    refine ⟨own, foreign, posted_given own foreign, ?_⟩
    rw [post_inside_given, posted_given, List.append_assoc]
    rfl
  | outside => exact ⟨r.posted, [], (List.append_nil _).symm, h.posted_post_outside task⟩

theorem Plain.length_posted_post (h : r.Plain) (side : Side) (task : τ) :
    (r.post side task).posted.length = r.posted.length + 1 := by
  obtain ⟨front, back, hbefore, hafter⟩ := h.posted_post side task
  rw [hbefore, hafter, List.length_append, List.length_append]
  rfl

/-! ## Taking -/

/-- A task was handed out from among those that wait. What stood in front of it came from
inside, and nothing did if the runner looked there first. -/
structure Handed (r : Runner τ) (choice : Choice) (task : τ) (left : Runner τ) : Prop where
  plain : left.Plain
  inside : ∀ other ∈ left.postedFrom .inside, other ∈ r.postedFrom .inside
  place : ∃ front back, r.posted = front ++ task :: back ∧ left.posted = front ++ back ∧
    (∀ other ∈ front, other ∈ r.postedFrom .inside) ∧ (choice = .own → front = [])

theorem handed_inside (own foreign : List τ) (task : τ) (choice : Choice) :
    Handed (given (task :: own) foreign) choice task (given own foreign) where
  plain := ⟨own, foreign, rfl⟩
  inside := by
    rw [postedFrom_given, postedFrom_given]
    exact fun _ => List.mem_cons_of_mem task
  place := ⟨[], own ++ foreign, posted_given _ _, posted_given _ _, nofun, fun _ => rfl⟩

theorem handed_outside (own foreign : List τ) (task : τ) {choice : Choice}
    (hown : choice = .own → own = []) :
    Handed (given own (task :: foreign)) choice task (given own foreign) where
  plain := ⟨own, foreign, rfl⟩
  inside := by
    rw [postedFrom_given, postedFrom_given]
    exact fun _ hin => hin
  place := by
    refine ⟨own, foreign, posted_given _ _, posted_given _ _, ?_, hown⟩
    rw [postedFrom_given]
    exact fun _ hin => hin

/-- **The next step of a runner** hands out a task that waits. If it hands out none, nothing
changes, and either none waits or the runner looked at the clock. -/
theorem Plain.take (h : r.Plain) (choice : Choice) :
    (r.take choice = (none, r) ∧ (choice ≠ .clock → r.posted = [])) ∨
      ∃ task left, r.take choice = (some task, left) ∧ Handed r choice task left := by
  obtain ⟨own, foreign, rfl⟩ := h
  have hnone : ∀ other : Choice, (given own foreign).next? other = none →
      (given own foreign).take other = (none, given own foreign) := by
    intro other hnext
    rw [Runner.take, hnext, lookUp_given]
  cases choice with
  | clock => exact .inl ⟨hnone .clock rfl, fun hother => absurd rfl hother⟩
  | own =>
    cases own with
    | cons task own => exact .inr ⟨task, _, rfl, handed_inside own foreign task .own⟩
    | nil =>
      cases foreign with
      | nil => exact .inl ⟨hnone .own rfl, fun _ => rfl⟩
      | cons task foreign => exact .inr ⟨task, _, rfl, handed_outside [] foreign task fun _ => rfl⟩
  | foreign =>
    cases foreign with
    | cons task foreign =>
      have hother : Choice.foreign ≠ .own := by decide
      exact .inr ⟨task, _, rfl, handed_outside own foreign task fun h => absurd h hother⟩
    | nil =>
      cases own with
      | nil => exact .inl ⟨hnone .foreign rfl, fun _ => rfl⟩
      | cons task own => exact .inr ⟨task, _, rfl, handed_inside own [] task .foreign⟩

theorem Plain.handed (h : r.Plain) {choice : Choice} {task : τ} {left : Runner τ}
    (htake : r.take choice = (some task, left)) : Handed r choice task left := by
  rcases h.take choice with ⟨hnone, -⟩ | ⟨next, rest, hsome, hhanded⟩
  · exact absurd (htake.symm.trans hnone) nofun
  · obtain ⟨hnext, rfl⟩ := Prod.mk.inj (htake.symm.trans hsome)
    obtain rfl := Option.some.inj hnext
    exact hhanded

theorem Handed.length_posted {choice : Choice} {task : τ} {left : Runner τ}
    (h : Handed r choice task left) : r.posted.length = left.posted.length + 1 := by
  obtain ⟨front, back, hbefore, hafter, -⟩ := h.place
  rw [hbefore, hafter, List.length_append, List.length_append]
  rfl

/-- **Another task that waits** stands no further behind for it, and comes nearer if the runner
looked first at what came from inside. -/
theorem Handed.split {choice : Choice} {task other : τ} {left : Runner τ}
    (h : Handed r choice task left) (hne : other ≠ task) {front back : List τ}
    (hposted : r.posted = front ++ other :: back) :
    ∃ front' back', left.posted = front' ++ other :: back' ∧ front'.length ≤ front.length ∧
      (choice = .own → front'.length < front.length) := by
  obtain ⟨before, after, hbefore, hleft, -, hfirst⟩ := h.place
  rcases List.append_eq_append_iff.1 (hposted.symm.trans hbefore) with
    ⟨between, rfl, hrest⟩ | ⟨between, rfl, hrest⟩
  · -- The one that is handed out stood behind.
    cases between with
    | nil => exact absurd (List.cons.inj hrest).1 hne
    | cons _ between =>
      obtain ⟨rfl, -⟩ := List.cons.inj hrest
      refine ⟨front, between ++ after, ?_, Nat.le_refl _, fun hown => ?_⟩
      · rw [hleft, List.append_assoc]
        rfl
      · exact absurd (hfirst hown) (List.append_ne_nil_of_right_ne_nil _ (List.cons_ne_nil _ _))
  · -- It stood in front.
    cases between with
    | nil => exact absurd (List.cons.inj hrest).1.symm hne
    | cons _ between =>
      obtain ⟨-, rfl⟩ := List.cons.inj hrest
      refine ⟨before ++ between, back, ?_, ?_, fun _ => ?_⟩
      · rw [hleft, List.append_assoc]
        rfl
      · rw [List.length_append, List.length_append, List.length_cons]
        omega
      · rw [List.length_append, List.length_append, List.length_cons]
        omega

/-- There is something to do as long as a task waits. -/
theorem Plain.isBusy_eq_false_iff (h : r.Plain) : r.isBusy = false ↔ r.posted = [] := by
  obtain ⟨own, foreign, rfl⟩ := h
  rw [posted_given]
  cases own <;> cases foreign <;> simp [isBusy, given, idle]

theorem Plain.load_eq (h : r.Plain) : r.load = r.posted.length := by
  obtain ⟨own, foreign, rfl⟩ := h
  rw [posted_given]
  simp [load, given, idle]

end ReadAhead.Runner
