/-
The order of what a client is told. Two signals make a buffer speak, a head and the end
of a transfer, and one flag decides which of them was the first; so what the client hears
depends on the whole history of transfers, which may be given up before they say a word.

`heeded` is what is left of that history: the signals that found their transfer the current
one and the buffer not stopped. `told` writes down what they amount to, without the flag:
one announcement, after the first answer, and then a message for each end. Every run tells
its client this and nothing else, and tells it at once.
-/
import ReadAhead.Proofs.Buffer.Superseded

set_option autoImplicit false

namespace ReadAhead

namespace Signal

/-- The signal is a head or an end, which is what a client is waiting for. -/
def isAnswer : Signal → Bool
  | .head _ | .ended _ => true
  | .bytes _ => false

def isEnd : Signal → Bool
  | .ended _ => true
  | .head _ | .bytes _ => false

/-- The signal says that the resource is there. -/
def isSuccess : Signal → Bool
  | .head answer => answer.isSuccess
  | .bytes _ | .ended _ => false

end Signal

namespace Buffer

open Signal (isAnswer isEnd)

/-! ## What is told of signals -/

/-- What a client is told of a signal, which may be the first answer. -/
def noticesOf (first : Bool) : Signal → List Effect
  | .head head => if first then [.initialized head.isSuccess] else []
  | .bytes _ => []
  | .ended _ => if first then [.initialized false, .ended] else [.ended]

/-- What a client is told of signals: whether the first answer among them is a success, and
then every end. -/
def told (signals : List Signal) : List Effect :=
  ((signals.find? isAnswer).map fun first => .initialized first.isSuccess).toList ++
    List.replicate (signals.countP isEnd) .ended

section

variable {signals : List Signal}

/-- Without an answer there is no end either. -/
theorem countP_isEnd_of_none (h : signals.find? isAnswer = none) : signals.countP isEnd = 0 := by
  refine List.countP_eq_zero.2 fun signal hin => ?_
  have hsignal : ¬ signal.isAnswer = true := List.find?_eq_none.1 h signal hin
  cases signal with
  | ended => exact absurd rfl hsignal
  | head | bytes => exact Bool.false_ne_true

/-- **One signal more** is told of behind the others. -/
theorem told_concat (signals : List Signal) (signal : Signal) :
    told (signals ++ [signal]) = told signals ++ noticesOf (!signals.any isAnswer) signal := by
  have hfind : (signals ++ [signal]).find? isAnswer =
      (signals.find? isAnswer).or ([signal].find? isAnswer) := List.find?_append
  have hany : signals.any isAnswer = (signals.find? isAnswer).isSome := List.isSome_find?.symm
  rw [told, told, hfind, List.countP_append, hany]
  cases hfirst : signals.find? isAnswer with
  | none =>
    rw [countP_isEnd_of_none hfirst]
    cases signal <;> rfl
  | some first =>
    cases signal with
    | head | bytes => exact (List.append_nil _).symm
    | ended status =>
      have hone : [Signal.ended status].countP isEnd = 1 := rfl
      rw [hone, List.replicate_succ', ← List.append_assoc]
      rfl

/-- **The first thing that is told** is whether the first answer is a success. It is told
once, and behind it come ends alone. -/
theorem told_eq_cons {effect : Effect} {rest : List Effect} (h : told signals = effect :: rest) :
    (∃ success, effect = .initialized success) ∧ ∀ other ∈ rest, other = .ended := by
  rw [told] at h
  cases hfirst : signals.find? isAnswer with
  | none =>
    rw [hfirst, countP_isEnd_of_none hfirst] at h
    exact absurd h nofun
  | some first =>
    rw [hfirst] at h
    obtain ⟨rfl, rfl⟩ := List.cons.inj h
    exact ⟨⟨_, rfl⟩, fun other hin => (List.mem_replicate.1 hin).2⟩

end

/-! ## Signals that are heeded -/

/-- The messages to the client among effects, in order. -/
def notices (effects : List Effect) : List Effect := effects.filter Effect.isNotice

/-- The signal that a call brings to a buffer's notice. -/
def heeded? (b : Buffer) : Call → Option Signal
  | .deliver fetch signal => if b.ignores fetch then none else some signal
  | .begin | .seek _ | .stop => none

/-- The signals that a run brings to a buffer's notice, in order. -/
def heeded (b : Buffer) : List Call → List Signal
  | [] => []
  | call :: rest => (b.heeded? call).toList ++ heeded (b.step call).1 rest

section

variable {b b' : Buffer} {call : Call} {effects : List Effect}

theorem heeded_append (b : Buffer) (calls later : List Call) :
    heeded b (calls ++ later) = heeded b calls ++ heeded (b.after calls) later := by
  induction calls generalizing b with
  | nil => rfl
  | cons call rest ih =>
    rw [List.cons_append, heeded, heeded, after_cons, ih, List.append_assoc]

theorem notices_append (effects later : List Effect) :
    notices (effects ++ later) = notices effects ++ notices later := List.filter_append ..

/-- Starting a transfer is no matter of the client's. -/
theorem notices_fetchFrom (b : Buffer) (position : Nat) :
    notices (b.fetchFrom position).2 = [] := by
  rw [fetchFrom]
  cases b.handle <;> rfl

/-- **A call tells the client of the signal that it brings to notice**, and the flag knows
whether there was an answer before. -/
theorem notices_change (h : Change b call b' effects) :
    notices effects = (b.heeded? call).toList.flatMap (noticesOf !b.initialized) ∧
      b'.initialized = (b.initialized || (b.heeded? call).toList.any isAnswer) := by
  have hnothing : ∀ b' : Buffer, b.heeded? call = none → b'.initialized = b.initialized →
      [] = (b.heeded? call).toList.flatMap (noticesOf !b.initialized) ∧
        b'.initialized = (b.initialized || (b.heeded? call).toList.any isAnswer) := by
    intro b' hnone hsame
    rw [hnone, hsame]
    exact ⟨rfl, (Bool.or_false _).symm⟩
  cases h with
  | declined call h =>
    cases call with
    | begin | seek => exact hnothing b rfl rfl
    | stop => exact h.elim
    | deliver fetch signal =>
      cases hignores : b.ignores fetch with
      | true => exact hnothing b (if_pos hignores) rfl
      | false =>
        -- What is declined for another reason is a chunk, and of that nobody is told.
        cases signal with
        | head | ended => exact absurd (hignores.symm.trans h) Bool.false_ne_true
        | bytes bytes =>
          rw [heeded?, hignores]
          exact ⟨rfl, (Bool.or_false _).symm⟩
  | began | moved =>
    rw [notices_fetchFrom]
    exact hnothing _ rfl rfl
  | stayed | stopped => exact hnothing _ rfl rfl
  | headed fetch head heeded =>
    rw [heeded?, heeded]
    cases b.initialized <;> exact ⟨rfl, rfl⟩
  | stored fetch bytes heeded =>
    rw [heeded?, heeded, trim_eq]
    exact ⟨rfl, (Bool.or_false _).symm⟩
  | ended fetch status heeded =>
    rw [heeded?, heeded]
    cases b.initialized <;> exact ⟨rfl, rfl⟩

end

/-! ## Runs -/

section

variable (url : Url) (settings : BufferSettings) (cache : Cache) (calls : List Call)

/-- **A run tells its client of the signals that were heeded**, and the flag knows whether
one of them was an answer. The induction is on the run from its end. -/
theorem notices_run :
    notices ((withCache url settings cache).run calls).2 =
        told (heeded (withCache url settings cache) calls) ∧
      ((withCache url settings cache).after calls).initialized =
        (heeded (withCache url settings cache) calls).any isAnswer := by
  generalize hfresh : withCache url settings cache = fresh
  induction calls using List.reverseRecOn with
  | nil => subst hfresh; exact ⟨rfl, rfl⟩
  | append_singleton calls call ih =>
    obtain ⟨htold, hflag⟩ := ih
    obtain ⟨hnotices, hnext⟩ := notices_change (change_step (fresh.after calls) call)
    have hlast : ((fresh.after calls).run [call]).2 = ((fresh.after calls).step call).2 :=
      List.append_nil _
    have hheeded : heeded fresh (calls ++ [call]) =
        heeded fresh calls ++ ((fresh.after calls).heeded? call).toList := by
      rw [heeded_append]
      exact congrArg (heeded fresh calls ++ ·) (List.append_nil _)
    rw [effects_run_append, notices_append, hlast, htold, hnotices, after_concat, hnext, hheeded,
      hflag, List.any_append]
    refine ⟨?_, rfl⟩
    cases (fresh.after calls).heeded? call with
    | none => simp
    | some signal => simp [told_concat]

/-- **What a buffer heeds** is the signals of the transfer that was started last, until it
is stopped. -/
theorem heeded?_deliver_iff (fetch : FetchId) (signal : Signal) :
    ((withCache url settings cache).after calls).heeded? (.deliver fetch signal) = some signal ↔
      .stop ∉ calls ∧ current? ((withCache url settings cache).run calls).2 = some fetch := by
  rw [← ignores_after, heeded?]
  cases ((withCache url settings cache).after calls).ignores fetch <;> simp

end

/-! ## Sessions -/

namespace Session

/-- A client that nobody sends away stays. -/
theorem clientAlive_move (s : Session) {m : Move} (hm : m ≠ .dropClient) :
    (s.move m).clientAlive = s.clientAlive := by
  cases m with
  | call | post => rfl
  | step choice =>
    show (s.step choice).clientAlive = s.clientAlive
    rw [step_eq]
    cases (s.io.take choice).1 <;> rfl
  | dropClient => exact absurd rfl hm

/-- **The log of a session with a living client** is the effects of a run of its buffer. -/
theorem run_of_play {s : Session} (alive : s.clientAlive = true) (moves : List Move)
    (hmoves : .dropClient ∉ moves) :
    ∃ calls, (s.play moves).buffer = s.buffer.after calls ∧
      (s.play moves).log = s.log ++ (s.buffer.run calls).2 := by
  induction moves generalizing s with
  | nil => exact ⟨[], rfl, (List.append_nil _).symm⟩
  | cons m rest ih =>
    rw [List.mem_cons, not_or] at hmoves
    obtain ⟨calls, hbuffer, hlog⟩ := s.calls_move m
    have hreaching : s.reaching (s.buffer.run calls).2 = (s.buffer.run calls).2 :=
      List.filter_eq_self.2 fun effect _ => by rw [alive, Bool.true_or]
    obtain ⟨later, hbufferlater, hloglater⟩ :=
      ih ((s.clientAlive_move (Ne.symm hmoves.1)).trans alive) hmoves.2
    refine ⟨calls ++ later, ?_, ?_⟩
    · rw [after_append, ← hbuffer]
      exact hbufferlater
    · rw [effects_run_append, ← List.append_assoc, ← hreaching, ← hlog, ← hbuffer]
      exact hloglater

end Session

/-! ## The client's part -/

/-- **A client is told of the first answer, once, and then of every end.** On any run of a
buffer: a head or an end that comes for the transfer started last, before any stop, is
told of at once, and nothing else is. Of the first of them the client hears whether it is a
head with a success, and of every end that it is one. So the announcement comes once,
and before any end. What a client that stays hears in a session is what a run has to
tell. -/
theorem client_told_in_order (url : Url) (settings : BufferSettings) (cache : Cache)
    (calls : List Call) :
    let fresh := withCache url settings cache
    let heard := notices (fresh.run calls).2
    heard = told (heeded fresh calls) ∧
      (∀ effect rest, heard = effect :: rest →
        (∃ success, effect = .initialized success) ∧ ∀ other ∈ rest, other = .ended) ∧
      (∀ call, notices ((fresh.after calls).step call).2 =
        match (fresh.after calls).heeded? call with
        | some signal => noticesOf (!(heeded fresh calls).any isAnswer) signal
        | none => []) ∧
      (∀ fetch signal, (fresh.after calls).heeded? (.deliver fetch signal) = some signal ↔
        .stop ∉ calls ∧ current? (fresh.run calls).2 = some fetch) ∧
      ∀ moves : List Session.Move, .dropClient ∉ moves → ∃ calls,
        ((Session.start fresh).play moves).buffer = fresh.after calls ∧
          ((Session.start fresh).play moves).log = (fresh.run calls).2 := by
  intro fresh heard
  obtain ⟨htold, hflag⟩ := notices_run url settings cache calls
  refine ⟨htold, fun effect rest heq => told_eq_cons (htold.symm.trans heq), fun call => ?_,
    heeded?_deliver_iff url settings cache calls, fun moves hmoves => ?_⟩
  · obtain ⟨hnotices, -⟩ := notices_change (change_step (fresh.after calls) call)
    rw [hnotices, hflag]
    cases (fresh.after calls).heeded? call with
    | none => rfl
    | some signal => exact List.append_nil _
  · obtain ⟨calls, hbuffer, hlog⟩ := Session.run_of_play (s := .start fresh) rfl moves hmoves
    exact ⟨calls, hbuffer, hlog⟩

/-- The head comes after a seek has started another transfer, and that one ends before any
head of its own: the client hears of a failure and of one end, and neither head counts. -/
theorem client_told_in_order_late_head :
    let fresh := withCache ⟨[], [], [], none, none, .rigid [], none, none⟩ ⟨2, 2, 4, 0⟩
      (.empty "" ⟨2⟩ 8)
    let calls : List Call := [.begin, .seek 100, .deliver 1 (.head ⟨200, none, none⟩),
      .deliver 2 (.ended .completed), .deliver 2 (.head ⟨200, none, none⟩)]
    notices (fresh.run calls).2 = [.initialized false, .ended] ∧
      (fresh.after (calls.take 2)).heeded? (.deliver 1 (.head ⟨200, none, none⟩)) = none ∧
      (fresh.after (calls.take 2)).heeded? (.deliver 2 (.ended .completed)) =
        some (.ended .completed) ∧
      ∃ heard,
        ((Session.start fresh).play [.post (calls.take 1), .call (.seek 100), .step .own]).log =
          (fresh.run heard).2 := by
  intro fresh calls
  obtain ⟨htold, -⟩ := client_told_in_order ⟨[], [], [], none, none, .rigid [], none, none⟩
    ⟨2, 2, 4, 0⟩ (.empty "" ⟨2⟩ 8) calls
  obtain ⟨-, -, -, hheeded, hsession⟩ := client_told_in_order
    ⟨[], [], [], none, none, .rigid [], none, none⟩ ⟨2, 2, 4, 0⟩ (.empty "" ⟨2⟩ 8) (calls.take 2)
  have hsignals : heeded fresh calls =
      [.ended .completed, .head ⟨200, none, none⟩] := by decide
  have hcurrent : current? (fresh.run (calls.take 2)).2 = some 2 := by decide
  have hstale : (fresh.after (calls.take 2)).heeded? (.deliver 1 (.head ⟨200, none, none⟩)) =
      none := by decide
  obtain ⟨heard, -, hlog⟩ :=
    hsession [.post (calls.take 1), .call (.seek 100), .step .own] (by decide)
  exact ⟨htold.trans (congrArg told hsignals), hstale,
    (hheeded 2 (.ended .completed)).2 ⟨by decide, hcurrent⟩, heard, hlog⟩

end Buffer

end ReadAhead
