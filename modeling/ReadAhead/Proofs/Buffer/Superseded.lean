/-
Signals of transfers that were given up. They come late, again or never, and between
those of the current transfer in any order; nothing may come of them, and nothing that a
transfer leaves behind may count for the next one.

That nothing comes of them is said of two runs: `purge` deletes the stale signals from a
run, and what the others find and leave is the same in both. `Visit` is all that can be
seen of one call, so two runs with the same visits cannot be told apart.

That nothing is left behind is one invariant, `accepting_after`: whether the body is
stored is decided by the head of the current transfer alone. So a byte that is cached
had a head of its own transfer before it, and the run says where.
-/
import ReadAhead.Proofs.Buffer.Fidelity
import ReadAhead.Proofs.Buffer.Transfers

set_option autoImplicit false

namespace ReadAhead.Buffer

/-! ## The current transfer -/

/-- The transfer that effects start last. -/
def current? (effects : List Effect) : Option FetchId := (requests effects).getLast?.map (·.id)

theorem current?_commands (effects : List Effect) :
    current? (commands effects) = current? effects := by
  rw [current?, requests_commands, current?]

/-- The last of several transfers has their number. -/
theorem current?_handovers (url : Url) (offsets : List Nat) :
    current? (handovers url offsets) = if offsets = [] then none else some offsets.length := by
  rw [current?, requests_handovers]
  induction offsets using List.reverseRecOn with
  | nil => rfl
  | append_singleton offsets offset _ =>
    rw [if_neg (List.concat_ne_nil offset offsets), List.zipIdx_append, List.map_append,
      List.length_append]
    simp [Request.rangeFrom]

/-- A window is about a fetch if there was a transfer, and the last one has its number. -/
theorem Engaged.isCurrent_iff {url : Url} {g : Geometry} {offsets : List Nat} {b : Buffer}
    (h : Engaged url g offsets b) (fetch : FetchId) :
    b.window.isCurrent fetch = true ↔ current? (handovers url offsets) = some fetch := by
  rw [FetchWindow.isCurrent, Bool.and_eq_true, bne_iff_ne, beq_iff_eq, ne_eq, h.idle, h.numbered,
    current?_handovers]
  by_cases hnone : offsets = []
  · simp [hnone]
  · rw [if_neg hnone, Option.some.injEq, eq_comm (a := fetch)]
    exact and_iff_right hnone

/-- A buffer that was stopped stays so, and only being stopped makes it so. -/
theorem stopped_after_iff (b : Buffer) (calls : List Call) :
    (b.after calls).stopped = true ↔ b.stopped = true ∨ .stop ∈ calls := by
  induction calls generalizing b with
  | nil => simp
  | cons call rest ih =>
    rw [after_cons, ih]
    by_cases hcall : call = .stop
    · simp [hcall, step, stop]
    · rw [b.stopped_step hcall, List.mem_cons, or_iff_right (Ne.symm hcall)]

section

variable (url : Url) (settings : BufferSettings) (cache : Cache) (calls : List Call)

/-- **The window is about the transfer that the engine was asked for last.** -/
theorem isCurrent_after (fetch : FetchId) :
    ((withCache url settings cache).after calls).window.isCurrent fetch = true ↔
      current? ((withCache url settings cache).run calls).2 = some fetch := by
  obtain ⟨offsets, hengaged, hasked⟩ := (engaged_withCache url settings cache).run calls
  rw [List.nil_append] at hengaged hasked
  have hcommands : handovers url offsets =
      commands ((withCache url settings cache).run calls).2 := hasked
  rw [hengaged.isCurrent_iff, hcommands, current?_commands]

/-- **A buffer heeds the signals of the current transfer** until it is stopped. -/
theorem ignores_after (fetch : FetchId) :
    ((withCache url settings cache).after calls).ignores fetch = false ↔
      .stop ∉ calls ∧ current? ((withCache url settings cache).run calls).2 = some fetch := by
  have hstopped := stopped_after_iff (withCache url settings cache) calls
  rw [ignores, Bool.or_eq_false_iff, Bool.not_eq_false', isCurrent_after, ← Bool.not_eq_true,
    hstopped]
  exact and_congr_left' (not_congr (or_iff_right Bool.false_ne_true))

end

/-! ## Runs without stale signals -/

/-- The call delivers a signal of another transfer than the current one. -/
def isStale (b : Buffer) : Call → Bool
  | .deliver fetch _ => !b.window.isCurrent fetch
  | .begin | .seek _ | .stop => false

/-- A run without the signals that find another transfer in place of theirs. -/
def purge (b : Buffer) : List Call → List Call
  | [] => []
  | call :: rest =>
    if b.isStale call then purge (b.step call).1 rest else call :: purge (b.step call).1 rest

/-- All that can be seen of a call. -/
structure Visit where
  /-- The buffer before it, and with it all that can be copied then. -/
  found : Buffer
  call : Call
  /-- Whether another transfer was started, if the call is a seek. -/
  restarted : Option Bool
  effects : List Effect
  left : Buffer
  deriving DecidableEq, Repr

/-- What a call answers to whoever makes it. -/
def restarted? (b : Buffer) : Call → Option Bool
  | .seek position => some (b.seek position).1
  | .begin | .stop | .deliver _ _ => none

/-- All that can be seen of a run. -/
def visits (b : Buffer) : List Call → List Visit
  | [] => []
  | call :: rest =>
    ⟨b, call, b.restarted? call, (b.step call).2, (b.step call).1⟩ :: visits (b.step call).1 rest

/-- The visit is that of a stale signal. -/
def Visit.isStale (v : Visit) : Bool := v.found.isStale v.call

section

variable {b : Buffer} {call : Call}

/-- **Nothing comes of a stale signal.** -/
theorem step_of_isStale (h : b.isStale call = true) : b.step call = (b, []) := by
  cases call with
  | deliver fetch signal =>
    rw [isStale] at h
    exact step_of_ignores (by rw [ignores, h, Bool.or_true]) signal
  | begin | seek | stop => exact absurd h Bool.false_ne_true

/-- **Without the stale signals the others find and leave the same.** -/
theorem visits_purge (b : Buffer) (calls : List Call) :
    visits b (purge b calls) = (visits b calls).filter (!·.isStale) := by
  induction calls generalizing b with
  | nil => rfl
  | cons call rest ih =>
    rw [purge, visits]
    cases hstale : b.isStale call with
    | true =>
      rw [if_pos rfl, List.filter_cons_of_neg (by simpa [Visit.isStale] using hstale), ← ih,
        step_of_isStale hstale]
    | false =>
      rw [if_neg Bool.false_ne_true, visits, ih,
        List.filter_cons_of_pos (by simpa [Visit.isStale] using hstale)]

/-- **A run without its stale signals** comes to the same, and has the same effects. -/
theorem run_purge (b : Buffer) (calls : List Call) : b.run (purge b calls) = b.run calls := by
  induction calls generalizing b with
  | nil => rfl
  | cons call rest ih =>
    rw [purge]
    cases hstale : b.isStale call with
    | true =>
      rw [if_pos rfl, run, step_of_isStale hstale]
      exact ih b
    | false =>
      rw [if_neg Bool.false_ne_true, run, run]
      dsimp only
      rw [ih]

/-- What is deleted had no effects and changed nothing. -/
theorem unchanged_of_isStale {calls : List Call} {v : Visit} (hv : v ∈ visits b calls)
    (hstale : v.isStale = true) : v.left = v.found ∧ v.effects = [] := by
  induction calls generalizing b with
  | nil => exact absurd hv List.not_mem_nil
  | cons call rest ih =>
    rcases List.mem_cons.1 hv with rfl | hlater
    · have hstep : b.step call = (b, []) := step_of_isStale hstale
      exact ⟨congrArg Prod.fst hstep, congrArg Prod.snd hstep⟩
    · exact ih hlater

end

/-! ## What the body is stored for -/

section

variable {b b' : Buffer} {call : Call} {effects : List Effect}

@[simp] theorem response_accept (b : Buffer) (head : Head) :
    (b.accept head).response = some head := by
  obtain ⟨_, _, _, h⟩ := b.accept_eq head
  rw [h]

/-- A head has the body stored exactly if it gives the body a place in the resource. -/
theorem accepting_accept (b : Buffer) (head : Head) :
    (b.accept head).accepting = (head.origin? b.window.start).isSome := by
  have hlearn : ∀ b' : Buffer, (b'.learnSize head).window.start = b'.window.start := by
    intro b'
    obtain ⟨total, h⟩ := learnSize_eq b' head
    rw [h]
  rw [accept, Head.origin?]
  dsimp only
  split
  · rfl
  cases hpartial : head.isPartial with
  | false =>
    simp only [Bool.not_false, if_true, Option.isSome_some, Bool.false_eq_true, if_false]
    split <;> rfl
  | true =>
    simp only [Bool.not_true, if_true, Bool.false_eq_true, if_false]
    cases hrange : head.contentRange with
    | none => rfl
    | some range =>
      dsimp only
      rw [hlearn]
      by_cases hfirst : range.first = b.window.start <;> simp [hfirst]

/-- The head of the current transfer gives its body a place in the resource. -/
def isPlaced (b : Buffer) : Bool := (b.response.bind (·.origin? b.window.start)).isSome

/-- **Whether the body is stored is decided by the head** of the same transfer. -/
theorem accepting_change (h : Change b call b' effects) (hb : b.accepting = b.isPlaced) :
    b'.accepting = b'.isPlaced := by
  cases h with
  | began | moved => rfl
  | headed fetch head =>
    rw [isPlaced]
    dsimp only
    rw [response_accept, start_accept, accepting_accept]
    rfl
  | stored fetch bytes =>
    rw [trim_eq]
    exact hb
  | declined | stayed | stopped | ended => exact hb

theorem accepting_after (url : Url) (settings : BufferSettings) (cache : Cache)
    (calls : List Call) :
    ((withCache url settings cache).after calls).accepting =
      ((withCache url settings cache).after calls).isPlaced :=
  after_induction (P := fun b => b.accepting = b.isPlaced)
    (fun _ _ _ _ => accepting_change) rfl calls

/-- A head that is not the current transfer's own is none of its. -/
theorem response_change (h : Change b call b' effects) {head : Head}
    (hresponse : b'.response = some head) :
    b.response = some head ∧ b'.window.attempt = b.window.attempt ∨
      call = .deliver b'.window.attempt (.head head) ∧ b.ignores b'.window.attempt = false := by
  cases h with
  | began | moved => exact absurd hresponse nofun
  | headed fetch other heeded =>
    dsimp only at hresponse ⊢
    rw [response_accept, Option.some.injEq] at hresponse
    have hcurrent : fetch = b.window.attempt := by
      rw [ignores, Bool.or_eq_false_iff, Bool.not_eq_false', FetchWindow.isCurrent,
        Bool.and_eq_true, beq_iff_eq] at heeded
      exact heeded.2.2
    rw [attempt_accept, ← hcurrent, hresponse]
    exact .inr ⟨rfl, heeded⟩
  | stored fetch bytes =>
    rw [trim_eq] at hresponse ⊢
    exact .inl ⟨hresponse, rfl⟩
  | declined | stayed | stopped | ended => exact .inl ⟨hresponse, rfl⟩

/-- **The head that a buffer knows was delivered for the current transfer**, in the course
of the run. The induction is on the run from its end. -/
theorem headed_of_response {fresh : Buffer} (hfresh : fresh.response = none) (calls : List Call)
    {head : Head} (hresponse : (fresh.after calls).response = some head) :
    ∃ earlier later,
      calls = earlier ++ .deliver (fresh.after calls).window.attempt (.head head) :: later ∧
        (fresh.after earlier).ignores (fresh.after calls).window.attempt = false := by
  induction calls using List.reverseRecOn with
  | nil => exact absurd (hfresh.symm.trans hresponse) nofun
  | append_singleton calls call ih =>
    have hchange := change_step (fresh.after calls) call
    rw [← after_concat] at hchange
    rcases response_change hchange hresponse with ⟨hbefore, hsame⟩ | ⟨hcall, heeded⟩
    · obtain ⟨earlier, later, hcalls, heeded⟩ := ih hbefore
      rw [← hsame] at hcalls heeded
      refine ⟨earlier, later ++ [call], ?_, heeded⟩
      rw [← List.cons_append, ← List.append_assoc, ← hcalls]
    · exact ⟨calls, [], congrArg (calls ++ [·]) hcall, heeded⟩

/-- **Only chunks that are stored touch the cache.** -/
theorem cache_change (h : Change b call b' effects) (hne : b'.cache ≠ b.cache) :
    ∃ fetch bytes, call = .deliver fetch (.bytes bytes) ∧ b.ignores fetch = false ∧
      b.accepting = true := by
  cases h with
  | stored fetch bytes heeded accepting => exact ⟨fetch, bytes, rfl, heeded, accepting⟩
  | headed fetch head => exact absurd (b.cache_accept head) hne
  | _ => exact absurd rfl hne

end

/-! ## Two runs -/

/-- **Transfers that were given up cannot interfere.** Take any run, and delete from it
every signal that finds another transfer in place of its own, or none. All other calls
find and leave the same buffer, so the same bytes can be copied in between; they give the
same answers and have the same effects, and those that were deleted had none.

The cache is changed by nothing but chunks of the current transfer, behind a head of the
same transfer that gives its body a place in the resource. -/
theorem superseded_harmless (url : Url) (settings : BufferSettings) (cache : Cache)
    (calls : List Call) :
    let fresh := withCache url settings cache
    let b := fresh.after calls
    visits fresh (purge fresh calls) = (visits fresh calls).filter (!·.isStale) ∧
      fresh.run (purge fresh calls) = fresh.run calls ∧
      (∀ v ∈ visits fresh calls, v.isStale = true → v.left = v.found ∧ v.effects = []) ∧
      (∀ fetch signal, b.isStale (.deliver fetch signal) = true ↔
        current? (fresh.run calls).2 ≠ some fetch) ∧
      ∀ call, (b.step call).1.cache ≠ b.cache →
        ∃ fetch bytes head earlier later, call = .deliver fetch (.bytes bytes) ∧
          .stop ∉ calls ∧ current? (fresh.run calls).2 = some fetch ∧
          calls = earlier ++ .deliver fetch (.head head) :: later ∧
          current? (fresh.run earlier).2 = some fetch ∧
          b.response = some head ∧ (head.origin? b.window.start).isSome = true := by
  intro fresh b
  refine ⟨visits_purge fresh calls, run_purge fresh calls, fun v hv => unchanged_of_isStale hv,
    fun fetch signal => ?_, fun call hne => ?_⟩
  · rw [isStale, Bool.not_eq_true', ← Bool.not_eq_true, isCurrent_after]
  · obtain ⟨fetch, bytes, hcall, heeded, accepting⟩ := cache_change (change_step b call) hne
    obtain ⟨hlive, hcurrent⟩ := (ignores_after url settings cache calls fetch).1 heeded
    -- The body is stored for the head that is known, and that one has a place in the run.
    have hplaced : b.isPlaced = true :=
      (accepting_after url settings cache calls).symm.trans accepting
    obtain ⟨origin, horigin⟩ := Option.isSome_iff_exists.1 hplaced
    obtain ⟨head, hresponse, hhead⟩ := Option.bind_eq_some_iff.1 horigin
    obtain ⟨earlier, later, hcalls, hheeded⟩ := headed_of_response rfl calls hresponse
    have hattempt : fetch = b.window.attempt := by
      have hwindow := (isCurrent_after url settings cache calls fetch).2 hcurrent
      rw [FetchWindow.isCurrent, Bool.and_eq_true, beq_iff_eq] at hwindow
      exact hwindow.2
    rw [← hattempt] at hcalls hheeded
    obtain ⟨-, hearlier⟩ := (ignores_after url settings cache earlier fetch).1 hheeded
    exact ⟨fetch, bytes, head, earlier, later, hcall, hlive, hcurrent, hcalls, hearlier, hresponse,
      Option.isSome_iff_exists.2 ⟨origin, hhead⟩⟩

/-- A signal before the first transfer, and two of the first after the second has taken
over: the run is the one without the three, and the chunk that comes next is cached for
the head of the second. -/
theorem superseded_harmless_late_body :
    let fresh := withCache ⟨[], [], [], none, none, .rigid [], none, none⟩ ⟨2, 2, 4, 0⟩
      (.empty "" ⟨2⟩ 8)
    let first : Head := ⟨200, none, none⟩
    let second : Head := ⟨206, none, some ⟨100, 103, none⟩⟩
    let late : List Call :=
      [.deliver 0 (.ended .completed), .begin, .deliver 1 (.head first), .deliver 1 (.bytes [0, 1]),
        .seek 100, .deliver 1 (.bytes [2, 3]), .deliver 2 (.head second),
        .deliver 1 (.ended .completed)]
    fresh.run [.begin, .deliver 1 (.head first), .deliver 1 (.bytes [0, 1]), .seek 100,
        .deliver 2 (.head second)] = fresh.run late ∧
      ((fresh.after late).step (.deliver 2 (.bytes [7]))).1.cache ≠ (fresh.after late).cache ∧
      ∃ head, (fresh.after late).response = some head ∧ .deliver 2 (.head head) ∈ late := by
  intro fresh first second late
  obtain ⟨-, hrun, -, -, hcache⟩ := superseded_harmless
    ⟨[], [], [], none, none, .rigid [], none, none⟩ ⟨2, 2, 4, 0⟩ (.empty "" ⟨2⟩ 8) late
  have hpurge : fresh.purge late = [.begin, .deliver 1 (.head first), .deliver 1 (.bytes [0, 1]),
      .seek 100, .deliver 2 (.head second)] := by decide
  have hstored : ((fresh.after late).step (.deliver 2 (.bytes [7]))).1.cache ≠
      (fresh.after late).cache := fun hsame =>
    absurd (congrArg Cache.count hsame) (by decide)
  obtain ⟨fetch, bytes, head, earlier, later, hcall, -, -, hcalls, -, hresponse, -⟩ :=
    hcache _ hstored
  obtain ⟨rfl, -⟩ := Call.deliver.inj hcall
  refine ⟨hpurge ▸ hrun, hstored, head, hresponse, ?_⟩
  rw [hcalls]
  exact List.mem_append_right _ List.mem_cons_self

end ReadAhead.Buffer
