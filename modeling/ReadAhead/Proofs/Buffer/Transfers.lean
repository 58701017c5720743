/-
What a buffer asks of the engine: to start transfers and to give them up. Two calls start
one, the posted start and a seek, and each of them only if the other has not done so
before; the handle of the last transfer, its number and the window are three accounts of
the same thing, and they are kept apart.

The whole conversation with the engine is fixed by where the transfers began. `handovers`
writes it down, and `Engaged` says that the three accounts agree with it. So there is never
more than one transfer that was not given up, and it is the one that the window is about.
-/
import ReadAhead.Proofs.Buffer.Restart
import ReadAhead.Buffer.Session
import Mathlib.Data.List.Induction

set_option autoImplicit false

namespace ReadAhead

/-- A request names the position that it asks for in its header. -/
theorem Request.header?_range (id : FetchId) (url : Url) (offset : Nat) :
    (Request.rangeFrom id url offset).header? "Range" = some s!"bytes={offset}-" := by
  have hsame : Text.sameLetters "Range".toList "Range".toList = true := by decide
  have hfirst : (rangeFrom id url offset).headers =
      ("Range", rangeValue offset) :: [("Accept-Encoding", identityOnly)] := rfl
  rw [header?, hfirst, List.find?_cons, hsame]
  rfl

namespace Buffer

/-! ## The conversation with the engine -/

/-- What effects ask of the engine, in order. -/
def commands (effects : List Effect) : List Effect := effects.filter (!·.isNotice)

/-- The transfer that an effect gives up. -/
def Effect.cancelled? : Effect → Option FetchId
  | .cancel fetch => some fetch
  | .start _ | .initialized _ | .ended => none

/-- The transfers that effects give up, in order. -/
def cancels (effects : List Effect) : List FetchId := effects.filterMap Effect.cancelled?

/-- What is asked of the engine if a transfer is begun and there were some before: it is
started under the next number, and the last one is given up right behind that. -/
def handover (url : Url) (offset before : Nat) : List Effect :=
  .start (.rangeFrom (before + 1) url offset) :: if before = 0 then [] else [.cancel before]

/-- What is asked of the engine if transfers are begun at these offsets. -/
def handovers (url : Url) (offsets : List Nat) : List Effect :=
  offsets.zipIdx.flatMap fun (offset, before) => handover url offset before

section

variable (url : Url) (offsets : List Nat) (offset : Nat)

theorem handovers_concat :
    handovers url (offsets ++ [offset]) =
      handovers url offsets ++ handover url offset offsets.length := by
  rw [handovers, List.zipIdx_append, List.flatMap_append, Nat.zero_add]
  exact congrArg (handovers url offsets ++ ·) (List.append_nil _)

theorem commands_append (effects later : List Effect) :
    commands (effects ++ later) = commands effects ++ commands later := List.filter_append ..

theorem requests_commands (effects : List Effect) :
    requests (commands effects) = requests effects := by
  rw [requests, commands, List.filterMap_filter]
  refine congrArg (List.filterMap · effects) (funext fun effect => ?_)
  cases effect <;> rfl

theorem cancels_commands (effects : List Effect) :
    cancels (commands effects) = cancels effects := by
  rw [cancels, commands, List.filterMap_filter]
  refine congrArg (List.filterMap · effects) (funext fun effect => ?_)
  cases effect <;> rfl

theorem requests_handover (before : Nat) :
    requests (handover url offset before) = [.rangeFrom (before + 1) url offset] := by
  unfold handover
  split <;> rfl

/-- **Transfers are numbered in the order in which they begin.** -/
theorem requests_handovers :
    requests (handovers url offsets) =
      offsets.zipIdx.map fun (offset, before) => .rangeFrom (before + 1) url offset := by
  induction offsets using List.reverseRecOn with
  | nil => rfl
  | append_singleton offsets offset ih =>
    rw [handovers_concat, requests_append, ih, requests_handover, List.zipIdx_append,
      List.map_append, Nat.zero_add]
    rfl

/-- **Every transfer is given up once, but for the last one.** -/
theorem cancels_handovers :
    cancels (handovers url offsets) = List.range' 1 (offsets.length - 1) := by
  induction offsets using List.reverseRecOn with
  | nil => rfl
  | append_singleton offsets offset ih =>
    have hlast : cancels (handover url offset offsets.length) =
        if offsets.length = 0 then [] else [offsets.length] := by
      unfold handover
      split <;> rfl
    have hsplit : cancels (handovers url offsets ++ handover url offset offsets.length) =
        cancels (handovers url offsets) ++ cancels (handover url offset offsets.length) :=
      List.filterMap_append
    rw [handovers_concat, hsplit, ih, hlast, List.length_append, List.length_singleton,
      Nat.add_sub_cancel]
    cases offsets with
    | nil => rfl
    | cons first rest =>
      rw [List.length_cons, if_neg (Nat.succ_ne_zero _), Nat.add_sub_cancel, List.range'_concat,
        Nat.one_mul, Nat.add_comm 1]

end

/-! ## The accounts of a buffer -/

/-- The transfers of a buffer began at these offsets. -/
structure Engaged (url : Url) (g : Geometry) (offsets : List Nat) (b : Buffer) : Prop where
  url : b.url = url
  geometry : b.cache.geometry = g
  numbered : b.window.attempt = offsets.length
  held : b.handle = if offsets.length = 0 then none else some offsets.length
  idle : b.window.phase = .idle ↔ offsets = []
  aligned : ∀ offset ∈ offsets, g.offsetOf offset = 0

variable {url : Url} {g : Geometry} {offsets : List Nat} {b b' : Buffer}

theorem engaged_withCache (url : Url) (settings : BufferSettings) (cache : Cache) :
    Engaged url cache.geometry [] (withCache url settings cache) :=
  ⟨rfl, rfl, rfl, rfl, ⟨fun _ => rfl, fun _ => rfl⟩, nofun⟩

/-- What is on account stays, if the transfers do. -/
theorem Engaged.of_same (h : Engaged url g offsets b) (hurl : b'.url = b.url)
    (hgeometry : b'.cache.geometry = b.cache.geometry)
    (hattempt : b'.window.attempt = b.window.attempt) (hhandle : b'.handle = b.handle)
    (hidle : b'.window.phase = .idle ↔ b.window.phase = .idle) : Engaged url g offsets b' :=
  ⟨hurl.trans h.url, hgeometry.trans h.geometry, hattempt.trans h.numbered, hhandle.trans h.held,
    hidle.trans h.idle, h.aligned⟩

/-- **A transfer that is begun** takes over from the one before it. -/
theorem Engaged.fetchFrom (h : Engaged url g offsets b) {position : Nat}
    (haligned : g.offsetOf position = 0) :
    Engaged url g (offsets ++ [position]) (b.fetchFrom position).1 ∧
      (b.fetchFrom position).2 = handover url position offsets.length := by
  have hattempt : (b.fetchFrom position).1.window.attempt = offsets.length + 1 :=
    congrArg (· + 1) h.numbered
  have hlength : (offsets ++ [position]).length = offsets.length + 1 := List.length_append
  refine ⟨⟨h.url, h.geometry, hattempt.trans hlength.symm, ?_, ?_, fun offset hin => ?_⟩, ?_⟩
  · rw [hlength, if_neg (Nat.succ_ne_zero _), ← hattempt]
    rfl
  · exact ⟨nofun, fun hnil => absurd hnil (List.append_ne_nil_of_right_ne_nil _ nofun)⟩
  · rcases List.mem_append.1 hin with hold | hnew
    · exact h.aligned offset hold
    · obtain rfl := List.mem_singleton.1 hnew
      exact haligned
  · have heffects : (b.fetchFrom position).2 =
        .start (.rangeFrom (b.window.attempt + 1) b.url position) ::
          b.handle.toList.map .cancel := rfl
    rw [heffects, handover, h.numbered, h.url, h.held]
    split <;> rfl

/-- **Every change keeps the accounts**: the transfers that it begins are those that it
asks the engine for. -/
theorem Engaged.change {call : Call} {effects : List Effect} (h : Change b call b' effects)
    (hb : Engaged url g offsets b) :
    ∃ more, Engaged url g (offsets ++ more) b' ∧
      handovers url (offsets ++ more) = handovers url offsets ++ commands effects := by
  -- All calls but two have nothing to ask of the engine.
  have hsilent : Engaged url g offsets b' → commands effects = [] → ∃ more,
      Engaged url g (offsets ++ more) b' ∧
        handovers url (offsets ++ more) = handovers url offsets ++ commands effects := by
    intro hkept hnone
    refine ⟨[], ?_, ?_⟩
    · rw [List.append_nil]
      exact hkept
    · rw [hnone, List.append_nil, List.append_nil]
  have hcommands : ∀ position, commands (handover url position offsets.length) =
      handover url position offsets.length := by
    intro position
    unfold handover
    split <;> rfl
  have hidle := idle_iff_change h
  cases h with
  | declined => exact hsilent hb rfl
  | began =>
    obtain ⟨hnext, heffects⟩ := hb.fetchFrom (Nat.zero_mod g.size)
    exact ⟨[0], hnext, by rw [heffects, hcommands, handovers_concat]⟩
  | stayed => exact hsilent (hb.of_same rfl rfl rfl rfl Iff.rfl) rfl
  | moved position =>
    have hreader : Engaged url g offsets (b.readerAt position) :=
      hb.of_same rfl rfl rfl rfl Iff.rfl
    rw [hb.geometry]
    obtain ⟨hnext, heffects⟩ := hreader.fetchFrom (g.offsetOf_startOf (g.blockOf position))
    exact ⟨[_], hnext, by rw [heffects, hcommands, handovers_concat]⟩
  | stopped => exact hsilent (hb.of_same rfl rfl rfl rfl Iff.rfl) rfl
  | headed fetch head =>
    have hkept : Engaged url g offsets { b.accept head with initialized := true } := by
      obtain ⟨total, discard, accepting, haccept⟩ := b.accept_eq head
      rw [haccept]
      exact hb.of_same rfl rfl rfl rfl Iff.rfl
    exact hsilent hkept (by cases b.initialized <;> rfl)
  | stored fetch bytes heeded accepting =>
    have hgeometry := geometry_change (.stored fetch bytes heeded accepting)
    have hkept : Engaged url g offsets (b.store bytes).trim := by
      rw [trim_eq] at hgeometry ⊢
      exact hb.of_same rfl hgeometry rfl rfl Iff.rfl
    exact hsilent hkept rfl
  | ended fetch status =>
    have hnone : requests (if b.initialized then [.ended] else [.initialized false, .ended]) =
        [] := by cases b.initialized <;> rfl
    rw [hnone] at hidle
    refine hsilent (hb.of_same rfl rfl rfl rfl (hidle.trans (and_iff_left rfl))) ?_
    cases b.initialized <;> rfl

/-- **Every run keeps the accounts.** -/
theorem Engaged.run (h : Engaged url g offsets b) (calls : List Call) :
    ∃ more, Engaged url g (offsets ++ more) (b.after calls) ∧
      handovers url (offsets ++ more) = handovers url offsets ++ commands (b.run calls).2 := by
  induction calls generalizing b offsets with
  | nil =>
    refine ⟨[], ?_, ?_⟩
    · rw [List.append_nil]
      exact h
    · rw [List.append_nil]
      exact (List.append_nil _).symm
  | cons call rest ih =>
    obtain ⟨first, hfirst, hasked⟩ := h.change (change_step b call)
    obtain ⟨more, hmore, hthen⟩ := ih hfirst
    rw [List.append_assoc] at hmore hthen
    refine ⟨first ++ more, hmore, ?_⟩
    rw [hthen, hasked, effects_run_cons, commands_append, List.append_assoc]

/-- **The posted start** begins the first transfer, or nothing. -/
theorem Engaged.begin (h : Engaged url g offsets b) :
    b.begin.2 = if b.stopped = false ∧ offsets = [] then [.start (.rangeFrom 1 url 0)] else [] := by
  unfold Buffer.begin
  cases hstopped : b.stopped with
  | true => rfl
  | false =>
    by_cases hnone : offsets = []
    · rw [if_neg (by rw [h.idle.2 hnone]; decide), if_pos ⟨rfl, hnone⟩]
      have hnumbered := h.numbered
      obtain rfl := hnone
      exact (h.fetchFrom (Nat.zero_mod _)).2
    · rw [if_pos (by simpa using mt h.idle.1 hnone), if_neg (fun hboth => hnone hboth.2)]

/-! ## Sessions -/

namespace Session

variable {url : Url} {g : Geometry} {offsets : List Nat} {s : Session}

/-- What of a buffer's effects reaches somebody. -/
def reaching (s : Session) (effects : List Effect) : List Effect :=
  effects.filter fun e => s.clientAlive || !e.isNotice

/-- A client that is gone misses its messages, and the engine nothing. -/
theorem commands_reaching (s : Session) (effects : List Effect) :
    commands (s.reaching effects) = commands effects := by
  rw [reaching, commands, commands, List.filter_filter]
  refine List.filter_congr fun effect _ => ?_
  cases s.clientAlive <;> cases effect <;> rfl

theorem commands_call (calls : List Call) :
    commands (s.call calls).log = commands s.log ++ commands (s.buffer.run calls).2 := by
  have hlog : (s.call calls).log = s.log ++ s.reaching (s.buffer.run calls).2 := rfl
  rw [hlog, commands_append, commands_reaching]

/-- A step of the I/O runner makes the calls that are handed out. -/
theorem step_eq (s : Session) (choice : Runner.Choice) :
    s.step choice = match (s.io.take choice).1 with
      | some calls => ({ s with io := (s.io.take choice).2 } : Session).call calls
      | none => { s with io := (s.io.take choice).2 } := by
  unfold step
  obtain ⟨_ | calls, io⟩ := s.io.take choice <;> rfl

/-- **What a move does to the buffer** is what some calls do to it, at once or on the I/O
runner. -/
theorem calls_move (s : Session) (m : Move) :
    ∃ calls, (s.move m).buffer = s.buffer.after calls ∧
      (s.move m).log = s.log ++ s.reaching (s.buffer.run calls).2 := by
  have hnothing : ∀ t : Session, t.buffer = s.buffer → t.log = s.log → ∃ calls,
      t.buffer = s.buffer.after calls ∧ t.log = s.log ++ s.reaching (s.buffer.run calls).2 := by
    intro t hbuffer hlog
    exact ⟨[], hbuffer, hlog.trans (List.append_nil _).symm⟩
  cases m with
  | call call => exact ⟨[call], rfl, rfl⟩
  | post calls => exact hnothing (s.post calls) rfl rfl
  | step choice =>
    show ∃ calls, (s.step choice).buffer = s.buffer.after calls ∧
      (s.step choice).log = s.log ++ s.reaching (s.buffer.run calls).2
    rw [step_eq]
    cases (s.io.take choice).1 with
    | none => exact hnothing { s with io := (s.io.take choice).2 } rfl rfl
    | some calls => exact ⟨calls, rfl, rfl⟩
  | dropClient => exact hnothing s.dropClient rfl rfl

/-- The transfers of a session began at these offsets, and the engine was asked for
nothing else. -/
structure Conversing (url : Url) (g : Geometry) (offsets : List Nat) (s : Session) : Prop where
  engaged : Engaged url g offsets s.buffer
  asked : commands s.log = handovers url offsets

theorem Conversing.move (h : s.Conversing url g offsets) (m : Move) :
    ∃ more, (s.move m).Conversing url g (offsets ++ more) := by
  obtain ⟨calls, hbuffer, hlog⟩ := s.calls_move m
  obtain ⟨more, hengaged, hthen⟩ := h.engaged.run calls
  exact ⟨more, hbuffer ▸ hengaged, by rw [hlog, commands_append, commands_reaching, h.asked, hthen]⟩

theorem Conversing.play (h : s.Conversing url g offsets) (moves : List Move) :
    ∃ more, (s.play moves).Conversing url g (offsets ++ more) := by
  induction moves generalizing s offsets with
  | nil =>
    refine ⟨[], ?_⟩
    rw [List.append_nil]
    exact h
  | cons m rest ih =>
    obtain ⟨first, hfirst⟩ := h.move m
    obtain ⟨more, hmore⟩ := ih hfirst
    rw [List.append_assoc] at hmore
    exact ⟨first ++ more, hmore⟩

/-- A session whose buffer is stopped asks for nothing any more. -/
theorem commands_play_of_stopped (stopped : s.buffer.stopped = true) (moves : List Move) :
    commands (s.play moves).log = commands s.log := by
  induction moves generalizing s with
  | nil => rfl
  | cons m rest ih =>
    obtain ⟨calls, hbuffer, hlog⟩ := s.calls_move m
    rw [after, run_of_stopped stopped] at hbuffer
    rw [run_of_stopped stopped] at hlog
    show commands ((s.move m).play rest).log = commands s.log
    rw [ih (hbuffer ▸ stopped), hlog, commands_append, commands_reaching]
    exact List.append_nil _

/-- What a posted start does when it is its turn. -/
theorem Conversing.log_begin (h : s.Conversing url g offsets) :
    (s.call [.begin]).log = s.log ++
      if s.buffer.stopped = false ∧ requests s.log = [] then [.start (.rangeFrom 1 url 0)]
      else [] := by
  have hnone : requests s.log = [] ↔ offsets = [] := by
    rw [← requests_commands, h.asked, requests_handovers, List.map_eq_nil_iff,
      List.zipIdx_eq_nil_iff]
  have hlog : (s.call [.begin]).log = s.log ++
      (s.buffer.begin.2 ++ []).filter fun e => s.clientAlive || !e.isNotice := rfl
  rw [hlog, List.append_nil, h.engaged.begin]
  simp only [hnone]
  refine congrArg (s.log ++ ·) ?_
  split
  · rw [List.filter_cons_of_pos (by rw [Effect.isNotice, Bool.not_false, Bool.or_true])]
    rfl
  · rfl

/-- **One transfer at a time, and each under its number.** On every run, calls being made
at once or left to the I/O runner: the engine is asked to start the transfers 1 to `n`,
where `n` is the window's attempt, each at the start of a block, which its `Range` header
names; and to give up each of them but the last, right behind the start of the next one.
After a stop it is asked for nothing. A start begins a transfer exactly if there never was
one and the buffer is not stopped at the time that it is carried out. -/
theorem transfers_handed_over (url : Url) (settings : BufferSettings) (cache : Cache)
    (moves : List Move) :
    let s := (start (withCache url settings cache)).play moves
    let n := s.buffer.window.attempt
    let started := s.log ++
      if s.buffer.stopped = false ∧ requests s.log = [] then [.start (.rangeFrom 1 url 0)] else []
    (∃ offsets : List Nat, offsets.length = n ∧ commands s.log = handovers url offsets ∧
        ∀ offset ∈ offsets, cache.geometry.size ∣ offset) ∧
      (requests s.log).map (·.id) = List.range' 1 n ∧
      (∀ request ∈ requests s.log, cache.geometry.size ∣ request.offset ∧
        request.header? "Range" = some s!"bytes={request.offset}-") ∧
      cancels s.log = List.range' 1 (n - 1) ∧
      (∀ later, commands ((s.move (.call .stop)).play later).log = commands s.log) ∧
      (s.move (.call .begin)).log = started ∧
      ∀ choice, (s.io.take choice).1 = some [.begin] → (s.step choice).log = started := by
  intro s n started
  have hfresh : (start (withCache url settings cache)).Conversing url cache.geometry [] :=
    ⟨engaged_withCache url settings cache, rfl⟩
  obtain ⟨offsets, hs⟩ := hfresh.play moves
  rw [List.nil_append] at hs
  have hlength : offsets.length = n := hs.engaged.numbered.symm
  have haligned : ∀ offset ∈ offsets, cache.geometry.size ∣ offset := fun offset hin =>
    Nat.dvd_of_mod_eq_zero (hs.engaged.aligned offset hin)
  have hrequests : requests s.log =
      offsets.zipIdx.map fun (offset, before) => .rangeFrom (before + 1) url offset := by
    rw [← requests_commands, hs.asked, requests_handovers]
  refine ⟨⟨offsets, hlength, hs.asked, haligned⟩, ?_, fun request hin => ?_, ?_, fun later => ?_,
    hs.log_begin, fun choice hturn => ?_⟩
  · have hids : (requests s.log).map (·.id) = (offsets.zipIdx.map Prod.snd).map (1 + ·) := by
      rw [hrequests, List.map_map, List.map_map]
      exact List.map_congr_left fun pair _ => Nat.add_comm pair.2 1
    rw [hids, List.zipIdx_map_snd, List.map_add_range', hlength]
  · rw [hrequests] at hin
    obtain ⟨⟨offset, before⟩, hpair, rfl⟩ := List.mem_map.1 hin
    exact ⟨haligned offset (List.fst_mem_of_mem_zipIdx hpair), Request.header?_range _ _ _⟩
  · rw [← cancels_commands, hs.asked, cancels_handovers, hlength]
  · have hstop : commands (s.move (.call .stop)).log = commands s.log :=
      (commands_call [.stop]).trans (List.append_nil _)
    rw [commands_play_of_stopped (s := s.move (.call .stop)) rfl, hstop]
  · have hstep : s.step choice =
        ({ s with io := (s.io.take choice).2 } : Session).call [.begin] := by
      rw [step_eq, hturn]
    rw [hstep]
    exact Conversing.log_begin (s := { s with io := (s.io.take choice).2 })
      ⟨hs.engaged, hs.asked⟩

/-- A start that two seeks have overtaken: the second transfer has taken over from the
first, and the start begins none. -/
theorem transfers_handed_over_overtaken :
    let s := (start (withCache ⟨[], [], [], none, none, .rigid [], none, none⟩ ⟨2, 2, 4, 0⟩
      (.empty "" ⟨2⟩ 4))).play [.post [.begin], .call (.seek 5), .call (.seek 100)]
    (s.io.take .own).1 = some [.begin] ∧ (requests s.log).map (·.offset) = [4, 100] ∧
      cancels s.log = [1] ∧ (s.step .own).log = s.log := by
  intro s
  obtain ⟨-, -, -, hcancels, -, -, hstep⟩ := transfers_handed_over
    ⟨[], [], [], none, none, .rigid [], none, none⟩ ⟨2, 2, 4, 0⟩ (.empty "" ⟨2⟩ 4)
    [.post [.begin], .call (.seek 5), .call (.seek 100)]
  have hturn : (s.io.take .own).1 = some [.begin] := by decide
  have hbegun : (requests s.log).map (·.offset) = [4, 100] := by decide
  refine ⟨hturn, hbegun, hcancels, (hstep .own hturn).trans ?_⟩
  rw [if_neg, List.append_nil]
  rintro ⟨-, hnone⟩
  rw [hnone] at hbegun
  exact absurd hbegun nofun

end Session

end Buffer

end ReadAhead
