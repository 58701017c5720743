/-
What the receiver of a transfer hears. Whatever the network makes of a request is an
`Outcome`: no answer, or a head, chunks and an end, which may never come. The receiver
hears the news of an outcome one by one, for as long as it is there and nobody gives the
transfer up, and after that nothing.

That is an equation, `deliveries_eq`: what is heard is as much of the outcome as there
was news before the first step that is no news. It has two halves. Before such a step
every piece of news is one call, in order (`deliveries_news`). Behind it the transfer is
`Silent`, which it stays; that a cancelled transfer is silent, even one whose handle is
empty, is what `Kept` is for: the task leaves the handle only to be aborted.

Nothing here is about servers, or how bodies are cut out of what they send.
-/
import ReadAhead.Http.Transfer
import ReadAhead.Proofs.Buffer.Fidelity
import Mathlib.Data.List.TakeWhile

set_option autoImplicit false

namespace ReadAhead.Http

/-! ## Outcomes -/

namespace Step

/-- The step comes from the network. -/
def isNews : Step → Bool
  | unanswered _ | head _ | chunk _ | complete | brokenOff _ => true
  | cancel | release | deafen => false

/-- The step goes through the handle. -/
def isCancelling : Step → Bool
  | cancel | release => true
  | unanswered _ | head _ | chunk _ | complete | brokenOff _ | deafen => false

/-- The news that a body has ended. -/
def ofEnding : FetchStatus → Step
  | .completed => complete
  | .failed reason => brokenOff reason

end Step

/-- What the network makes of a request. -/
inductive Outcome where
  | unanswered (reason : String)
  /-- An answer. Without an ending its body goes on for ever. -/
  | answered (head : Head) (chunks : List Bytes) (ending : Option FetchStatus)
  deriving DecidableEq, Repr

namespace Outcome

/-- The news of an outcome, as it comes. -/
def news : Outcome → List Step
  | unanswered reason => [.unanswered reason]
  | answered head chunks ending =>
    .head head :: (chunks.map .chunk ++ ending.toList.map .ofEnding)

/-- What the receiver is to hear of an outcome. -/
def signals : Outcome → List Signal
  | unanswered reason => [.ended (.failed reason)]
  | answered head chunks ending =>
    .head head :: (chunks.map .bytes ++ ending.toList.map .ended)

/-- The body as far as it came. -/
def body : Outcome → Bytes
  | unanswered _ => []
  | answered _ chunks _ => chunks.flatten

theorem isNews_of_mem_news {o : Outcome} {s : Step} (h : s ∈ o.news) : s.isNews = true := by
  cases o with
  | unanswered reason => rw [List.mem_singleton.1 h]; rfl
  | answered head chunks ending =>
    simp only [news, List.mem_cons, List.mem_append, List.mem_map] at h
    rcases h with rfl | ⟨chunk, -, rfl⟩ | ⟨status, -, rfl⟩
    · rfl
    · rfl
    · cases status <;> rfl

/-- There is one signal for each piece of news. -/
theorem length_signals (o : Outcome) : o.signals.length = o.news.length := by
  cases o with
  | unanswered reason => rfl
  | answered head chunks ending => simp [signals, news]

/-- The chunks that the receiver is to hear are the body. -/
theorem payload_signals (o : Outcome) : Signal.payload o.signals = o.body := by
  cases o with
  | unanswered reason => rfl
  | answered head chunks ending =>
    have hending : Signal.payload (ending.toList.map Signal.ended) = [] := by
      cases ending <;> rfl
    simp only [signals, body, Signal.payload, Signal.payload_append, hending, List.append_nil]
    induction chunks with
    | nil => rfl
    | cons chunk chunks ih => simp only [List.map_cons, Signal.payload, ih, List.flatten_cons]

end Outcome

namespace Transfer

variable {t : Transfer} {s : Step} {steps : List Step}

/-! ## What a step can do -/

/-- What a step makes of a transfer, and whom it calls. -/
inductive Change (t : Transfer) : Step → Transfer → List Callback → Prop where
  /-- News for a task that is not resumed, or that is not waiting for it. -/
  | unmoved (s : Step) : Change t s t []
  | told (s : Step) (signal : Signal) (next : Phase) (live : t.aborted = false)
      (heard : t.heard = true) (waiting : t.phase ≠ .over) :
      Change t s { t with phase := next } [⟨t.id, signal⟩]
  /-- The task goes on, but there is nobody to call. -/
  | unheard (s : Step) (deaf : t.heard = false) : Change t s { t with phase := .over } []
  | cancelled (s : Step) (cancelling : s.isCancelling = true) : Change t s t.cancel []
  | deafened : Change t .deafen { t with heard := false } []

theorem change_finish (s : Step) (status : FetchStatus) (live : t.aborted = false)
    (waiting : t.phase ≠ .over) :
    Change t s (t.finish (some status)).1 (t.finish (some status)).2 := by
  unfold finish
  dsimp only
  by_cases hheard : t.heard = true
  · rw [if_pos hheard]
    exact .told s (.ended status) .over live hheard waiting
  · rw [if_neg hheard]
    exact .unheard s (by simpa using hheard)

theorem change_hand (s : Step) (signal : Signal) (live : t.aborted = false)
    (waiting : t.phase ≠ .over) : Change t s (t.hand signal).1 (t.hand signal).2 := by
  unfold hand
  by_cases hheard : t.heard = true
  · rw [if_pos hheard]
    exact .told s signal .streaming live hheard waiting
  · rw [if_neg hheard]
    exact .unheard s (by simpa using hheard)

theorem change_resume (t : Transfer) (s : Step) (live : t.aborted = false) :
    Change t s (t.resume s).1 (t.resume s).2 := by
  have hsent : t.phase = .sent → t.phase ≠ .over := by
    intro h
    rw [h]
    decide
  have hstreaming : t.phase = .streaming → t.phase ≠ .over := by
    intro h
    rw [h]
    decide
  unfold resume
  split
  · next h => exact change_finish _ _ live (hsent h)
  · next h => exact change_hand _ _ live (hsent h)
  · next h => exact change_hand _ _ live (hstreaming h)
  · next h => exact change_finish _ _ live (hstreaming h)
  · next h => exact change_finish _ _ live (hstreaming h)
  · exact .unmoved _

theorem step_of_isNews (h : s.isNews = true) (t : Transfer) :
    t.step s = if t.aborted then (t, []) else t.resume s := by
  cases s with
  | cancel | release | deafen => cases h
  | _ => rfl

theorem step_of_isCancelling (h : s.isCancelling = true) (t : Transfer) :
    t.step s = (t.cancel, []) := by
  cases s with
  | cancel | release => rfl
  | _ => cases h

/-- **The list of outcomes of a step is complete.** -/
theorem change_step (t : Transfer) (s : Step) : Change t s (t.step s).1 (t.step s).2 := by
  by_cases hnews : s.isNews = true
  · rw [step_of_isNews hnews]
    by_cases haborted : t.aborted = true
    · rw [if_pos haborted]
      exact .unmoved s
    · rw [if_neg haborted]
      exact change_resume t s (by simpa using haborted)
  · cases s with
    | cancel => exact .cancelled .cancel rfl
    | release => exact .cancelled .release rfl
    | deafen => exact .deafened
    | _ => exact absurd rfl hnews

/-- No step gives a transfer another number. -/
theorem Change.id {t' : Transfer} {callbacks : List Callback} (h : Change t s t' callbacks) :
    t'.id = t.id := by
  cases h with
  | cancelled =>
    unfold cancel
    split <;> rfl
  | _ => rfl

theorem Change.fetch {t' : Transfer} {callbacks : List Callback} (h : Change t s t' callbacks)
    {callback : Callback} (hin : callback ∈ callbacks) : callback.fetch = t.id := by
  cases h with
  | told => rw [List.mem_singleton.1 hin]
  | _ => exact absurd hin List.not_mem_nil

/-! ## Runs -/

/-- What becomes of a transfer. -/
def after (t : Transfer) (steps : List Step) : Transfer :=
  steps.foldl (fun t s => (t.step s).1) t

theorem deliveries_cons (t : Transfer) (s : Step) (rest : List Step) :
    t.deliveries (s :: rest) = (t.step s).2 ++ (t.step s).1.deliveries rest := rfl

theorem deliveries_append (t : Transfer) (steps later : List Step) :
    t.deliveries (steps ++ later) = t.deliveries steps ++ (t.after steps).deliveries later := by
  induction steps generalizing t with
  | nil => rfl
  | cons s rest ih =>
    rw [List.cons_append, deliveries_cons, deliveries_cons, ih, List.append_assoc]
    rfl

theorem after_append (t : Transfer) (steps later : List Step) :
    t.after (steps ++ later) = (t.after steps).after later := List.foldl_append

/-- **What every step keeps holds after every run.** -/
theorem after_induction {P : Transfer → Prop}
    (keep : ∀ t s t' callbacks, Change t s t' callbacks → P t → P t') (ht : P t)
    (steps : List Step) : P (t.after steps) := by
  induction steps generalizing t with
  | nil => exact ht
  | cons s rest ih => exact ih (keep t s _ _ (change_step t s) ht)

/-- **Every call carries the number of the transfer**, whatever the steps. -/
theorem fetch_of_mem_deliveries {callback : Callback} (h : callback ∈ t.deliveries steps) :
    callback.fetch = t.id := by
  induction steps generalizing t with
  | nil => exact absurd h List.not_mem_nil
  | cons s rest ih =>
    rw [deliveries_cons, List.mem_append] at h
    rcases h with hnow | hlater
    · exact (change_step t s).fetch hnow
    · rw [ih hlater, (change_step t s).id]

/-! ## Silence

A transfer is silent once it is over, its receiver is gone or its task was aborted. No
step brings it back. -/

/-- Nobody will be called any more. -/
def Silent (t : Transfer) : Prop := t.phase = .over ∨ t.heard = false ∨ t.aborted = true

theorem Silent.change {t' : Transfer} {callbacks : List Callback}
    (h : Change t s t' callbacks) (ht : t.Silent) : callbacks = [] ∧ t'.Silent := by
  cases h with
  | unmoved => exact ⟨rfl, ht⟩
  | told _ _ _ live heard waiting =>
    rcases ht with hover | hdeaf | haborted
    · exact absurd hover waiting
    · rw [heard] at hdeaf
      cases hdeaf
    · rw [live] at haborted
      cases haborted
  | unheard => exact ⟨rfl, .inl rfl⟩
  | cancelled =>
    refine ⟨rfl, ?_⟩
    unfold cancel
    split
    · exact .inr (.inr rfl)
    · exact ht
  | deafened => exact ⟨rfl, .inr (.inl rfl)⟩

/-- **A silent transfer calls nobody**, whatever comes. -/
theorem Silent.deliveries (ht : t.Silent) (steps : List Step) : t.deliveries steps = [] := by
  induction steps generalizing t with
  | nil => rfl
  | cons s rest ih =>
    obtain ⟨hnow, hlater⟩ := ht.change (change_step t s)
    rw [deliveries_cons, hnow, ih hlater]
    rfl

/-- The task has left the handle only to be aborted. -/
def Kept (t : Transfer) : Prop := t.held = false → t.aborted = true

theorem kept_start (id : FetchId) : (start id).Kept := by
  intro h
  cases h

theorem Kept.aborted_cancel (ht : t.Kept) : t.cancel.aborted = true := by
  unfold cancel
  split
  · rfl
  · next hheld => exact ht (by simpa using hheld)

theorem Kept.change {t' : Transfer} {callbacks : List Callback} (h : Change t s t' callbacks)
    (ht : t.Kept) : t'.Kept := by
  cases h with
  | cancelled => exact fun _ => ht.aborted_cancel
  | _ => exact ht

theorem Kept.after (ht : t.Kept) (steps : List Step) : (t.after steps).Kept :=
  after_induction (P := Kept) (fun _ _ _ _ h ht => ht.change h) ht steps

/-- **What is no news silences a transfer.** -/
theorem Kept.deliveries_cons (ht : t.Kept) (hs : s.isNews = false) (later : List Step) :
    t.deliveries (s :: later) = [] := by
  have hsilent : (t.step s).2 = [] ∧ (t.step s).1.Silent := by
    cases s with
    | cancel => exact ⟨rfl, .inr (.inr ht.aborted_cancel)⟩
    | release => exact ⟨rfl, .inr (.inr ht.aborted_cancel)⟩
    | deafen => exact ⟨rfl, .inr (.inl rfl)⟩
    | _ => cases hs
  rw [Transfer.deliveries_cons, hsilent.1, hsilent.2.deliveries later]
  rfl

/-! ## Cancelling again -/

/-- Nothing is put back into a handle. -/
theorem held_after (ht : t.held = false) (steps : List Step) : (t.after steps).held = false := by
  refine after_induction (P := fun t => t.held = false) ?_ ht steps
  intro t s t' callbacks h ht
  cases h with
  | cancelled =>
    unfold cancel
    rw [ht]
    exact ht
  | _ => exact ht

theorem held_cancel (t : Transfer) : t.cancel.held = false := by
  unfold cancel
  split
  · rfl
  · next hheld => simpa using hheld

/-- **A transfer that was cancelled can be cancelled again**, and nothing changes. -/
theorem step_cancel_again {first again : Step} (hfirst : first.isCancelling = true)
    (hagain : again.isCancelling = true) (t : Transfer) (between : List Step) :
    let cancelled := t.after (first :: between)
    cancelled.step again = (cancelled, []) := by
  intro cancelled
  have hheld : cancelled.held = false := by
    have hfirst : (t.step first).1.held = false := by
      rw [step_of_isCancelling hfirst]
      exact held_cancel t
    exact held_after hfirst between
  rw [step_of_isCancelling hagain, cancel, hheld, if_neg Bool.false_ne_true]

/-! ## News -/

/-- A transfer in the middle of an answer, with somebody to hear it. -/
structure Flows (t : Transfer) : Prop where
  streaming : t.phase = .streaming
  heard : t.heard = true
  live : t.aborted = false

theorem Flows.step_chunk (ht : t.Flows) (bytes : Bytes) :
    t.step (.chunk bytes) = (t, [⟨t.id, .bytes bytes⟩]) := by
  obtain ⟨id, phase, heard, held, aborted⟩ := t
  obtain ⟨rfl, rfl, rfl⟩ := ht
  rfl

theorem Flows.snd_step_ofEnding (ht : t.Flows) (status : FetchStatus) :
    (t.step (.ofEnding status)).2 = [⟨t.id, .ended status⟩] := by
  obtain ⟨id, phase, heard, held, aborted⟩ := t
  obtain ⟨rfl, rfl, rfl⟩ := ht
  cases status <;> rfl

/-- **The rest of an answer**: every chunk is handed on as it came, and so is the end.
The induction is on the chunks; a transfer is the same after each of them. -/
theorem Flows.deliveries (ht : t.Flows) (chunks : List Bytes) (ending : Option FetchStatus)
    (h : steps <+: chunks.map .chunk ++ ending.toList.map .ofEnding) :
    t.deliveries steps =
      ((chunks.map Signal.bytes ++ ending.toList.map Signal.ended).take steps.length).map
        (Callback.mk t.id) := by
  induction chunks generalizing steps with
  | nil =>
    cases steps with
    | nil => rfl
    | cons s rest =>
      cases ending with
      | none => simp at h
      | some status =>
        obtain ⟨rfl, hrest⟩ := List.cons_prefix_cons.1 h
        obtain rfl := List.prefix_nil.1 hrest
        rw [deliveries_cons, ht.snd_step_ofEnding]
        rfl
  | cons chunk chunks ih =>
    cases steps with
    | nil => rfl
    | cons s rest =>
      obtain ⟨rfl, hrest⟩ := List.cons_prefix_cons.1 h
      rw [deliveries_cons, ht.step_chunk, ih hrest]
      rfl

/-- **Before the first step that is no news**, the receiver hears everything. -/
theorem deliveries_news (id : FetchId) (o : Outcome) (h : steps <+: o.news) :
    (start id).deliveries steps = (o.signals.take steps.length).map (Callback.mk id) := by
  cases steps with
  | nil => rfl
  | cons s rest =>
    cases o with
    | unanswered reason =>
      obtain ⟨rfl, hrest⟩ := List.cons_prefix_cons.1 h
      obtain rfl := List.prefix_nil.1 hrest
      rfl
    | answered head chunks ending =>
      obtain ⟨rfl, hrest⟩ := List.cons_prefix_cons.1 h
      have hflows : Flows { start id with phase := .streaming } := ⟨rfl, rfl, rfl⟩
      exact congrArg (List.cons ⟨id, .head head⟩) (hflows.deliveries chunks ending hrest)

/-! ## All steps -/

/-- **What the receiver hears** is what there was news of before the first step that is
none. -/
theorem deliveries_eq (id : FetchId) (o : Outcome) (sent : steps.filter Step.isNews <+: o.news) :
    (start id).deliveries steps =
      (o.signals.take (steps.takeWhile Step.isNews).length).map (Callback.mk id) := by
  have hsplit : steps.takeWhile Step.isNews ++ steps.dropWhile Step.isNews = steps :=
    List.takeWhile_append_dropWhile
  -- The steps up to there are all news, so they are the first of the outcome's.
  have hfirst : steps.takeWhile Step.isNews <+: o.news := by
    have hall : (steps.takeWhile Step.isNews).filter Step.isNews = steps.takeWhile Step.isNews :=
      List.filter_eq_self.2 (List.all_eq_true.1 List.all_takeWhile)
    rw [← hall]
    exact ((List.takeWhile_prefix _).filter _).trans sent
  have hrest : ((start id).after (steps.takeWhile Step.isNews)).deliveries
      (steps.dropWhile Step.isNews) = [] := by
    cases hdrop : steps.dropWhile Step.isNews with
    | nil => rfl
    | cons s later =>
      have hs := List.head?_dropWhile_not Step.isNews steps
      rw [hdrop] at hs
      exact ((kept_start id).after _).deliveries_cons hs later
  calc (start id).deliveries steps
      = (start id).deliveries (steps.takeWhile Step.isNews ++ steps.dropWhile Step.isNews) := by
        rw [hsplit]
    _ = (start id).deliveries (steps.takeWhile Step.isNews) := by
        rw [deliveries_append, hrest, List.append_nil]
    _ = _ := deliveries_news id o hfirst

/-! ## The receiver -/

/-- **A receiver is told what happened, in order, and for as long as it wants to know.**
Whatever the network makes of a request, and whenever the transfer is cancelled, its
handle dropped or its receiver gone: all calls carry the number of the transfer, and they
are the signals of the outcome, one for each piece of news before the first interruption.
Without one the receiver hears the outcome to its end, and the chunks put together are the
body. After one nobody is called, and to cancel once more changes nothing. -/
theorem receiver_told (id : FetchId) (o : Outcome) {steps : List Step}
    (sent : steps.filter Step.isNews <+: o.news) :
    let told := (start id).deliveries steps
    let signals := told.map Callback.signal
    (∀ callback ∈ told, callback.fetch = id) ∧
      signals = o.signals.take (steps.takeWhile Step.isNews).length ∧
      (steps = o.news → signals = o.signals ∧ Signal.payload signals = o.body) ∧
      (∀ earlier interruption later, steps = earlier ++ interruption :: later →
        interruption.isNews = false → told = (start id).deliveries earlier) ∧
      ∀ earlier first between again later,
        steps = earlier ++ first :: between ++ again :: later →
        first.isCancelling = true → again.isCancelling = true →
        let cancelled := (start id).after (earlier ++ first :: between)
        cancelled.step again = (cancelled, []) := by
  intro told signals
  have hsignals : signals = o.signals.take (steps.takeWhile Step.isNews).length := by
    show ((start id).deliveries steps).map Callback.signal = _
    rw [deliveries_eq id o sent, List.map_map]
    exact List.map_id _
  refine ⟨fun callback hin => fetch_of_mem_deliveries hin, hsignals, ?_, ?_, ?_⟩
  · intro hall
    have hfull : signals = o.signals := by
      have hnews : o.news.takeWhile Step.isNews = o.news :=
        List.takeWhile_eq_self_iff.2 fun s hs => Outcome.isNews_of_mem_news hs
      rw [hsignals, hall, hnews, ← o.length_signals, List.take_length]
    exact ⟨hfull, by rw [hfull, o.payload_signals]⟩
  · intro earlier interruption later hsteps hnews
    show (start id).deliveries steps = _
    rw [hsteps, deliveries_append, ((kept_start id).after earlier).deliveries_cons hnews,
      List.append_nil]
  · intro earlier first between again later hsteps hfirst hagain cancelled
    have hsame := step_cancel_again hfirst hagain ((start id).after earlier) between
    rw [← after_append] at hsame
    exact hsame

/-- An error answer that is cancelled in the middle of its body: the receiver has heard
the head and the first chunk, and hears neither of the second one nor of the reset. -/
theorem receiver_told_cancelled :
    let head : Head := ⟨404, some 3, none⟩
    let o : Outcome := .answered head [[1], [2, 3]] (some (.failed "reset"))
    let steps : List Step :=
      [.head head, .chunk [1], .cancel, .chunk [2, 3], .release, .brokenOff "reset"]
    let told := (start 7).deliveries steps
    steps.filter Step.isNews <+: o.news ∧
      (∀ callback ∈ told, callback.fetch = 7) ∧
      told.map Callback.signal = [.head head, .bytes [1]] ∧
      told = (start 7).deliveries [.head head, .chunk [1]] := by
  intro head o steps told
  have sent : steps.filter Step.isNews <+: o.news := by decide
  obtain ⟨hfetch, hsignals, -, hbefore, -⟩ := receiver_told 7 o sent
  exact ⟨sent, hfetch, hsignals, hbefore [.head head, .chunk [1]] .cancel _ rfl rfl⟩

end Transfer

end ReadAhead.Http
