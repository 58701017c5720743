/-
The body of an answer may come in chunks of any size. What a chunk adds to the cache and how
far it moves the window are counted in bytes, so a body that is cut, wherever it is cut,
comes to the same as the whole.

There is one thing that is done per chunk and not per byte: memory is given back behind each
of them. As storing only ever takes memory, a body that fits the budget as a whole fits it
after every one of its chunks, and then no chunk has anything given back.
-/
import ReadAhead.Proofs.Cache.Splitting
import ReadAhead.Proofs.Buffer.Memory
import ReadAhead.Proofs.Buffer.Storing

set_option autoImplicit false

namespace ReadAhead.Buffer

/-- Deliveries of a body chunk by chunk. -/
def deliveries (fetch : FetchId) (chunks : List Bytes) : List Call :=
  chunks.map fun chunk => .deliver fetch (.bytes chunk)

section

variable {b : Buffer}

/-! ## One cut -/

/-- What is left of a chunk is what lies behind the bytes that are to be dropped. -/
theorem body_eq (b : Buffer) (bytes : Bytes) : b.body bytes = bytes.drop b.window.discard := by
  have hdropped : (b.window.takeDiscard bytes.length).1 = min b.window.discard bytes.length := rfl
  rw [body, hdropped]
  rcases Nat.le_total b.window.discard bytes.length with h | h
  · rw [Nat.min_eq_left h]
  · rw [Nat.min_eq_right h, List.drop_length, List.drop_of_length_le h]

/-- Every byte of a chunk that is dropped is one less to drop. -/
theorem discard_store (b : Buffer) (bytes : Bytes) :
    (b.store bytes).window.discard = b.window.discard - bytes.length := by
  have hdiscard : (b.store bytes).window.discard =
      b.window.discard - min b.window.discard bytes.length := rfl
  omega

theorem body_append (b : Buffer) (bytes more : Bytes) :
    b.body (bytes ++ more) = b.body bytes ++ (b.store bytes).body more := by
  rw [body_eq, body_eq, body_eq, discard_store, List.drop_append]

theorem store_nil (b : Buffer) : b.store [] = b := by
  have hbody : b.body [] = [] := by rw [body_eq, List.drop_nil]
  have hwindow : (b.store []).window = b.window := by
    rw [window_store, hbody, List.length_nil, FetchWindow.takeDiscard, Nat.min_zero]
    rfl
  have hcache : (b.store []).cache = b.cache := by
    rw [cache_store, hbody, Cache.ingest_nil]
  show { b with cache := (b.store []).cache, window := (b.store []).window } = b
  rw [hwindow, hcache]

/-- **The window is moved by two chunks as by both at once**, whatever is cached. -/
theorem window_store_append (b : Buffer) (bytes more : Bytes) :
    (b.store (bytes ++ more)).window = ((b.store bytes).store more).window := by
  have hwindow : ∀ (b : Buffer) (bytes : Bytes), (b.store bytes).window =
      { b.window with
        offset := b.window.offset + (b.body bytes).length
        discard := b.window.discard - bytes.length } := by
    intro b bytes
    rw [← discard_store]
    rfl
  rw [hwindow, hwindow (b.store bytes), body_append, hwindow b bytes, List.length_append,
    List.length_append, Nat.add_assoc, Nat.sub_sub]

/-- **A chunk may be cut in two anywhere**, the bytes to be dropped included. -/
theorem store_append (hb : b.Sound) (hc : b.cache.Coherent) (bytes more : Bytes) :
    b.store (bytes ++ more) = (b.store bytes).store more := by
  have hcache : (b.store (bytes ++ more)).cache = ((b.store bytes).store more).cache := by
    rw [cache_store, cache_store, frontier_store, cache_store, body_append]
    exact Cache.ingest_append hb.sized hb.writable hc _ _
  show { b with
    cache := (b.store (bytes ++ more)).cache
    window := (b.store (bytes ++ more)).window } = _
  rw [hcache, window_store_append]
  rfl

/-- A buffer that fits its budget with a chunk fits it without. -/
theorem fits_of_store (hb : b.Sound) (hc : b.cache.Coherent) {bytes : Bytes}
    (fits : (b.store bytes).cache.overBudget = false) : b.cache.overBudget = false := by
  have hmemory := Cache.memory_le_ingest hc hb.sized hb.writable (b.body bytes)
  have hbudget : (b.store bytes).cache.budget = b.cache.budget := Cache.budget_ingest _ _ _
  rw [Cache.overBudget_eq_false_iff, hbudget, cache_store] at fits
  rw [Cache.overBudget_eq_false_iff]
  exact Nat.le_trans hmemory fits

theorem trim_of_fits (fits : b.cache.overBudget = false) : b.trim = b := by
  rw [trim, fits, if_neg Bool.false_ne_true]

/-! ## Any number of chunks -/

/-- Storing a chunk and giving memory back has no part in which signals are heeded. -/
theorem ignores_stored (b : Buffer) (fetch : FetchId) (bytes : Bytes) :
    (b.store bytes).trim.ignores fetch = b.ignores fetch := by
  rw [trim_eq]
  rfl

theorem accepting_stored (b : Buffer) (bytes : Bytes) :
    (b.store bytes).trim.accepting = b.accepting := by
  rw [trim_eq]
  rfl

/-- **The window after any chunks** is the one after all of them at once. The induction is on
the chunks; what each of them has given back does not matter for the window. -/
theorem window_deliveries {fetch : FetchId} (heeded : b.ignores fetch = false)
    (accepting : b.accepting = true) (chunks : List Bytes) :
    (b.after (deliveries fetch chunks)).window = (b.store chunks.flatten).window := by
  induction chunks generalizing b with
  | nil => rw [List.flatten_nil, store_nil]; rfl
  | cons chunk rest ih =>
    have hrest := ih ((ignores_stored b fetch chunk).trans heeded)
      ((accepting_stored b chunk).trans accepting)
    rw [deliveries, List.map_cons, after_cons, step_bytes heeded accepting, ← deliveries, hrest,
      List.flatten_cons, window_store_append, trim_eq]
    rfl

/-- **Any chunks come to the same as all of them at once**, as long as all of them at once
fit the budget. -/
theorem after_deliveries (hb : b.Sound) (hc : b.cache.Coherent) {fetch : FetchId}
    (heeded : b.ignores fetch = false) (accepting : b.accepting = true) {chunks : List Bytes}
    (fits : (b.store chunks.flatten).cache.overBudget = false) :
    b.after (deliveries fetch chunks) = b.store chunks.flatten := by
  induction chunks generalizing b with
  | nil => rw [List.flatten_nil, store_nil]; rfl
  | cons chunk rest ih =>
    rw [List.flatten_cons, store_append hb hc] at fits ⊢
    have hkept : (b.store chunk).trim = b.store chunk :=
      trim_of_fits (fits_of_store (hb.store chunk) (coherent_store hc chunk) fits)
    rw [deliveries, List.map_cons, after_cons, step_bytes heeded accepting, hkept, ← deliveries]
    exact ih (hb.store chunk) (coherent_store hc chunk) heeded accepting fits

/-- Chunks that are ignored change nothing, however many they are. -/
theorem after_deliveries_of_declined {fetch : FetchId}
    (h : b.ignores fetch = true ∨ b.accepting = false) (chunks : List Bytes) :
    b.after (deliveries fetch chunks) = b := by
  have hstep : ∀ bytes, (b.step (.deliver fetch (.bytes bytes))).1 = b := by
    intro bytes
    rw [step, deliver, receive]
    rcases h with h | h <;> simp [h]
  induction chunks with
  | nil => rfl
  | cons chunk rest ih =>
    rw [deliveries, List.map_cons, after_cons, hstep]
    exact ih

/-! ## The body of a whole resource -/

/-- As long as a transfer has no answer, nothing of its body was taken. -/
def Unanswered (b : Buffer) : Prop :=
  b.response = none → b.accepting = false ∧ b.window.offset = 0 ∧ b.window.discard = 0

theorem Unanswered.change {b' : Buffer} {call : Call} {effects : List Effect}
    (h : Change b call b' effects) (hb : b.Unanswered) : b'.Unanswered := by
  intro hnone
  cases h with
  | began | moved => exact ⟨rfl, rfl, rfl⟩
  | headed fetch head =>
    obtain ⟨_, _, _, haccept⟩ := b.accept_eq head
    rw [haccept] at hnone
    exact absurd hnone nofun
  | stored fetch bytes _ accepting =>
    have hresponse : b.response = none := by
      rw [trim_eq] at hnone
      exact hnone
    exact absurd (accepting.symm.trans (hb hresponse).1) nofun
  | declined | stayed | stopped | ended => exact hb hnone

/-- **An answer that brings the whole resource** has its body stored, but not what lies before
the start of the transfer. -/
theorem accept_whole {head : Head} (success : head.isSuccess = true)
    (whole : head.isPartial = false) (hdiscard : b.window.discard = 0) :
    (b.accept head).accepting = true ∧ (b.accept head).window.discard = b.window.start := by
  obtain ⟨total, hlearn⟩ :=
    learnSize_eq { b with response := some head, accepting := false } head
  rw [accept]
  dsimp only
  rw [success, whole, hlearn]
  simp only [Bool.not_true, Bool.false_eq_true, if_false]
  by_cases hstart : 0 < b.window.start
  · rw [if_pos hstart]
    exact ⟨rfl, rfl⟩
  · rw [if_neg hstart]
    refine ⟨rfl, ?_⟩
    dsimp only
    omega

/-- **Where a body of the whole resource brings the frontier**, in whatever chunks it comes. -/
theorem frontier_whole (hb : b.Unanswered) {fetch : FetchId} (heeded : b.ignores fetch = false)
    (unanswered : b.response = none) {head : Head} (success : head.isSuccess = true)
    (whole : head.isPartial = false) (chunks : List Bytes) :
    (b.after (.deliver fetch (.head head) :: deliveries fetch chunks)).window.frontier =
      max b.window.start chunks.flatten.length := by
  obtain ⟨-, hoffset, hdiscard⟩ := hb unanswered
  obtain ⟨haccepting, hdrop⟩ := accept_whole success whole hdiscard
  have hstep : (b.step (.deliver fetch (.head head))).1 =
      { b.accept head with initialized := true } := by
    rw [step, deliver, respond, heeded]
    rfl
  have hheeded : Buffer.ignores { b.accept head with initialized := true } fetch = false := by
    rw [ignores, FetchWindow.isCurrent]
    dsimp only
    rw [stopped_accept, phase_accept, attempt_accept]
    exact heeded
  have hfrontier : (b.accept head).window.frontier = b.window.start := by
    rw [frontier_accept, FetchWindow.frontier, hoffset, Nat.add_zero]
  rw [after_cons, hstep]
  have hwindow := window_deliveries hheeded haccepting chunks
  rw [FetchWindow.frontier, hwindow, ← FetchWindow.frontier, frontier_store, body_eq]
  dsimp only
  rw [hfrontier, hdrop, List.length_drop]
  omega

end

/-! ## Every run -/

/-- **Chunking does not matter**, on any run of a buffer, around any cache that edits make of
an empty one. A body that is cut into any chunks, empty ones included and wherever the cuts
are, moves the window as it does when it comes in one piece. The whole buffer is the same in
the end, the cache in every block and the recency chain in every link included, if the body
in one piece would not have taken the cache above its budget.

So an answer with the whole resource, to a transfer that had none before, puts the frontier
behind the bytes that came of it, or leaves it where the transfer began if these are fewer. -/
theorem chunking_immaterial (url : Url) (settings : BufferSettings) (label : String)
    (geometry : Geometry) (budget : Nat) (edits : List Cache.Edit) (calls : List Call)
    (fetch : FetchId) (chunks : List Bytes) :
    let cache := (Cache.empty label geometry budget).after edits
    let b := (withCache url settings cache).after calls
    let cut := b.after (deliveries fetch chunks)
    let whole := (b.step (.deliver fetch (.bytes chunks.flatten))).1
    cut.window = whole.window ∧
      ((b.ignores fetch = false → b.accepting = true →
        (b.store chunks.flatten).cache.memory ≤ budget) → cut = whole) ∧
      ∀ head : Head, b.response = none → b.ignores fetch = false → head.isSuccess = true →
        head.isPartial = false →
          (b.after (.deliver fetch (.head head) :: deliveries fetch chunks)).window.frontier =
            max b.window.start chunks.flatten.length := by
  intro cache b cut whole
  have hsized : cache.Sized := Cache.sized_after (Cache.sized_empty label geometry budget) edits
  have hb : b.Sound := (sound_withCache url settings hsized).after calls
  have hc : b.cache.Coherent :=
    after_induction (P := fun b => b.cache.Coherent) (fun _ _ _ _ => coherent_change)
      ⟨_, Cache.tracked_after label geometry budget edits⟩ calls
  have hbudget : (b.store chunks.flatten).cache.budget = budget :=
    (Cache.budget_ingest _ _ _).trans ((budget_after _ calls).trans (Cache.budget_after _ edits))
  have hunanswered : b.Unanswered :=
    after_induction (P := Unanswered) (fun _ _ _ _ h hb => hb.change h)
      (fun _ => ⟨rfl, rfl, rfl⟩) calls
  -- Chunks that are ignored one by one are ignored together.
  have hdeclined : ¬ (b.ignores fetch = false ∧ b.accepting = true) → cut = whole := by
    intro h
    have hnone : b.ignores fetch = true ∨ b.accepting = false := by
      rwa [not_and_or, Bool.not_eq_false, Bool.not_eq_true] at h
    show b.after _ = b.after (deliveries fetch [chunks.flatten])
    rw [after_deliveries_of_declined hnone, after_deliveries_of_declined hnone]
  refine ⟨?_, fun fits => ?_, fun head unanswered heeded success hwhole =>
    frontier_whole hunanswered heeded unanswered success hwhole chunks⟩
  · by_cases hstored : b.ignores fetch = false ∧ b.accepting = true
    · show (b.after _).window = (b.step _).1.window
      rw [window_deliveries hstored.1 hstored.2, step_bytes hstored.1 hstored.2, window_trim]
    · rw [hdeclined hstored]
  · by_cases hstored : b.ignores fetch = false ∧ b.accepting = true
    · have hfits : (b.store chunks.flatten).cache.overBudget = false := by
        rw [Cache.overBudget_eq_false_iff, hbudget]
        exact fits hstored.1 hstored.2
      show b.after _ = (b.step _).1
      rw [after_deliveries hb hc hstored.1 hstored.2 hfits, step_bytes hstored.1 hstored.2,
        trim_of_fits hfits]
    · exact hdeclined hstored

/-- A transfer from byte 4 on whose range is ignored: one of the cuts is in front of that
byte, one chunk is empty, and one spans two blocks. -/
theorem chunking_immaterial_ignored_range :
    let fresh := withCache ⟨[], [], [], none, none, .rigid [], none, none⟩ ⟨2, 2, 8, 0⟩
      (.empty "" ⟨2⟩ 8)
    let head : Head := ⟨200, some 12, none⟩
    let b := fresh.after [.begin, .seek 5, .deliver 2 (.head head)]
    let chunks : List Bytes := [[0, 1, 2], [], [3, 4, 5], [6, 7, 8], [9]]
    let cut := b.after (deliveries 2 chunks)
    cut = (b.step (.deliver 2 (.bytes chunks.flatten))).1 ∧ cut.window.discard = 0 ∧
      cut.window.frontier = 10 ∧ cut.cache.byte? 9 = some 9 ∧ cut.cache.recency.order = [1, 2] := by
  intro fresh head b chunks cut
  obtain ⟨-, hsame, -⟩ := chunking_immaterial ⟨[], [], [], none, none, .rigid [], none, none⟩
    ⟨2, 2, 8, 0⟩ "" ⟨2⟩ 8 [] [.begin, .seek 5, .deliver 2 (.head head)] 2 chunks
  obtain ⟨-, -, hfrontier⟩ := chunking_immaterial ⟨[], [], [], none, none, .rigid [], none, none⟩
    ⟨2, 2, 8, 0⟩ "" ⟨2⟩ 8 [] [.begin, .seek 5] 2 chunks
  refine ⟨hsame fun _ _ => by decide, by decide, ?_, by decide, by decide⟩
  exact hfrontier head (by decide) (by decide) (by decide) (by decide)

end ReadAhead.Buffer
