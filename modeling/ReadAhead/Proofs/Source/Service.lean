/-
A read whose seek has run is answered by the next look at it, once the frontier has
passed its position. Until then the transfer may be cut into any chunks, and blocks
evicted in any number: the buffer stays at the service of its reader, as long as no
other read seeks, and no other read does while this one is pending.

That is what `Attends` says of a ledger. A stale task may look, and even seek, on
behalf of the pending read; but the position it announces is then the pending read's.
-/
import ReadAhead.Proofs.Source.Accounting
import ReadAhead.Proofs.Buffer.Reader

set_option autoImplicit false

namespace ReadAhead

/-- Routine calls leave the reader where it is. -/
theorem Buffer.Call.keepsReader_of_isRoutine {call : Buffer.Call} (h : call.isRoutine = true)
    (p : Nat) : call.KeepsReader p := by
  cases call with
  | seek => exact absurd h Bool.false_ne_true
  | _ => trivial

namespace RemoteSource

namespace Ledger

/-! ## What holds of a ledger -/

/-- The source's buffer is sound, and stopped exactly if the source is. -/
def Healthy (l : Ledger) : Prop :=
  ∀ source, l.source = some source →
    source.buffer.Sound ∧ source.buffer.stopped = source.stopped

theorem Healthy.step {l m : Ledger} (h : Step l m) (hl : l.Healthy) : m.Healthy := by
  intro other hother
  cases h with
  | refused | accepted | completed =>
    obtain rfl := Option.some.inj hother
    obtain ⟨hsound, hstopped⟩ := hl _ rfl
    exact ⟨hsound, hstopped⟩
  | sought read =>
    obtain rfl := Option.some.inj hother
    obtain ⟨hsound, hstopped⟩ := hl _ rfl
    have hcall : Buffer.Call.seek read.position ≠ .stop := nofun
    exact ⟨hsound.step _, (Buffer.stopped_step _ hcall).trans hstopped⟩
  | called call hroutine =>
    obtain rfl := Option.some.inj hother
    obtain ⟨hsound, hstopped⟩ := hl _ rfl
    have hcall : call ≠ .stop := by
      rintro rfl
      exact absurd hroutine Bool.false_ne_true
    exact ⟨hsound.step _, (Buffer.stopped_step _ hcall).trans hstopped⟩
  | stopped =>
    obtain rfl := Option.some.inj hother
    exact ⟨(hl _ rfl).1.change .stopped, rfl⟩
  | gone => exact absurd hother.symm (Option.some_ne_none other)

/-- The read was asked for, and as long as it is pending the buffer is at its service. -/
structure Attends (l : Ledger) (read : Read) : Prop where
  asked : read.tag < l.asked.length
  serves : ∀ source, l.source = some source → source.pending = some read →
    source.buffer.Serves read.position

/-- **Every step attends to the pending read.** A read that is accepted is another one,
since its tag is new. -/
theorem Attends.step {l m : Ledger} {read : Read} (h : Step l m) (hl : l.Attends read)
    (hp : read.position < UInt64.size) : m.Attends read := by
  cases h with
  | refused =>
    refine ⟨Nat.lt_of_lt_of_le hl.asked ?_, hl.serves⟩
    rw [List.length_append]
    exact Nat.le_add_right _ _
  | accepted =>
    refine ⟨Nat.lt_of_lt_of_le hl.asked ?_, fun source hsource hpending => ?_⟩
    · rw [List.length_append]
      exact Nat.le_add_right _ _
    · obtain rfl := Option.some.inj hsource
      rw [← Option.some.inj hpending] at hl
      exact absurd hl.asked (Nat.lt_irrefl _)
  | sought other live waits =>
    -- Whichever task seeks, it seeks for the read that is pending.
    refine ⟨hl.asked, fun source hsource hpending => ?_⟩
    obtain rfl := Option.some.inj hsource
    obtain rfl : other = read := Option.some.inj (waits.symm.trans hpending)
    have hserves := hl.serves _ rfl hpending
    exact hserves.step hp rfl
  | called call hroutine =>
    refine ⟨hl.asked, fun source hsource hpending => ?_⟩
    obtain rfl := Option.some.inj hsource
    have hserves := hl.serves _ rfl hpending
    exact hserves.step hp (Buffer.Call.keepsReader_of_isRoutine hroutine _)
  | completed | stopped =>
    refine ⟨hl.asked, fun source hsource hpending => ?_⟩
    obtain rfl := Option.some.inj hsource
    exact absurd hpending.symm (Option.some_ne_none read)
  | gone => exact ⟨hl.asked, fun source hsource => absurd hsource.symm (Option.some_ne_none source)⟩

end Ledger

namespace Session

open Ledger

theorem pending?_eq_some {s : Session} {read : Read} :
    s.pending? = some read ↔ ∃ source, s.source = some source ∧ source.pending = some read :=
  Option.bind_eq_some_iff

/-- Where a read is pending, it is waited for. -/
theorem waiting?_of_pending {s : Session} (hs : s.ledger.Balanced) {source : RemoteSource}
    {read : Read} (hsource : s.source = some source) (hpending : source.pending = some read) :
    s.waiting? = some (source, read) := by
  refine waiting?_eq_some.2 ⟨hsource, ?_, hpending⟩
  cases hstopped : source.stopped with
  | false => rfl
  | true =>
    have hbare : s.ledger.source = some source.bare := by rw [ledger_of_source hsource]
    have hnone : source.pending = none := hs.quiet source.bare hbare hstopped
    exact absurd (hnone.symm.trans hpending) nofun

/-- The step of the render runner that a look comes up in. -/
theorem stepRender_of_look {s : Session} {choice : Runner.Choice} {seek : Bool}
    (h : (s.render.take choice).1 = some (.look seek)) :
    s.stepRender choice =
      ({ s with render := (s.render.take choice).2 } : Session).look seek := by
  rw [stepRender_eq, h]
  rfl

/-! ## The first look -/

/-- **The look in which a read announces its position** puts the buffer at its service. -/
theorem attends_stepRender {s : Session} (hs : s.ledger.Balanced) (hh : s.ledger.Healthy)
    {read : Read} (hp : read.position < UInt64.size) {choice : Runner.Choice}
    (htask : (s.render.take choice).1 = some (.look true)) (hpending : s.pending? = some read) :
    (s.stepRender choice).ledger.Attends read := by
  obtain ⟨source, hsource, hsourcepending⟩ := pending?_eq_some.1 hpending
  let t : Session := { s with render := (s.render.take choice).2 }
  have hwaiting : t.waiting? = some (source, read) :=
    waiting?_of_pending (s := t) hs hsource hsourcepending
  obtain ⟨-, live, -⟩ := waiting?_eq_some.1 hwaiting
  obtain ⟨hsound, hstopped⟩ := hh source.bare (by rw [ledger_of_source hsource])
  rw [stepRender_of_look htask]
  -- What the look does after the seek is again a matter of steps.
  have hsteps := (leads_look_announced hwaiting true).steps
  refine hsteps.induction (P := fun l => l.Attends read) (fun _ _ h hl => hl.step h hp) ?_
  refine ⟨?_, fun other hother _ => ?_⟩
  · rw [← s.pending_ledger] at hpending
    exact (List.getElem?_eq_some_iff.1 (hs.given read hpending)).1
  · obtain rfl := Option.some.inj hother
    exact hsound.seek (hstopped.trans live) read.position

/-! ## The looks that follow -/

theorem log_ask (s : Session) (place : Place) (plan : Plan) :
    s.log <+: (s.ask place plan).log := by
  induction plan generalizing s with
  | done => exact List.prefix_rfl
  | ask first inside rest ihInside ihRest =>
    unfold ask
    cases s.source with
    | none => exact List.prefix_rfl
    | some source =>
      dsimp only
      cases source.refusal? first with
      | some failure =>
        refine List.IsPrefix.trans (List.IsPrefix.trans ?_ (ihInside _)) (ihRest _)
        exact List.prefix_append _ _
      | none =>
        refine List.IsPrefix.trans ?_ (ihRest _)
        exact List.prefix_rfl

theorem log_answer (s : Session) (place : Place) (read : Read) (result : Read.Result) :
    s.log ++ [read.answer result place] <+: (s.answer place read result).log :=
  log_ask (s.record (read.answer result place)) place read.followUps

theorem log_cancelRetry (s : Session) (place : Place) (source : RemoteSource) :
    (s.cancelRetry place source).log = s.log := by
  unfold cancelRetry
  cases source.retry <;> rfl

/-- A read whose position is cached is answered at the next look, and one behind the
end of the resource is answered with nothing. -/
theorem look?_of_serves {source : RemoteSource} {read : Read}
    (hserves : source.buffer.Serves read.position)
    (hpassed : read.position < source.buffer.window.frontier) (hroom : read.buffer ≠ []) :
    ∃ count found, source.look? read = some (count, found) ∧ found.tag = read.tag ∧
      found.followUps = read.followUps ∧
      (0 < count ∨ source.buffer.window.isPastEnd read.position = true) := by
  unfold look?
  cases hend : source.buffer.window.isPastEnd read.position with
  | true => exact ⟨0, read, rfl, rfl, rfl, .inr rfl⟩
  | false =>
    obtain ⟨count, out, hfill, hpos⟩ := hserves.fill hpassed hroom
    rw [hfill]
    exact ⟨count, { read with buffer := out }, rfl, rfl, rfl, .inl hpos⟩

/-- **A look at a read that is attended to answers it**, as soon as the frontier has
passed its position. Nothing is heard before the answer, so no transfer is started. -/
theorem stepRender_answers {t : Session} (ht : t.ledger.Balanced) (hh : t.ledger.Healthy)
    {source : RemoteSource} {read : Read} (hatt : t.ledger.Attends read)
    (hsource : t.source = some source) (hpending : source.pending = some read)
    (hpassed : read.position < source.buffer.window.frontier) {choice : Runner.Choice}
    {seek : Bool} (htask : (t.render.take choice).1 = some (.look seek)) :
    ∃ count out,
      t.log ++ [.read read.tag (.done count) out .render] <+: (t.stepRender choice).log ∧
      (0 < count ∨ source.buffer.window.isPastEnd read.position = true) := by
  have hbare : t.ledger.source = some source.bare := by rw [ledger_of_source hsource]
  have hserves : source.buffer.Serves read.position := hatt.serves source.bare hbare hpending
  let u : Session := { t with render := (t.render.take choice).2 }
  have hwaiting : u.waiting? = some (source, read) :=
    waiting?_of_pending (s := u) ht hsource hpending
  obtain ⟨-, live, -⟩ := waiting?_eq_some.1 hwaiting
  have hlive : source.buffer.stopped = false := (hh source.bare hbare).2.trans live
  have hroom : read.buffer ≠ [] :=
    ht.room read (t.pending_ledger.trans (pending?_eq_some.2 ⟨source, hsource, hpending⟩))
  -- If the read seeks once more, that changes nothing, and the window least of all.
  have hannounce : (announced source read seek).buffer.Serves read.position ∧
      (announced source read seek).buffer.window = source.buffer.window ∧
      (announce source read seek).2 = [] := by
    unfold announced announce
    cases seek with
    | false => exact ⟨hserves, rfl, rfl⟩
    | true =>
      rw [if_pos rfl, hserves.step_seek hlive hpassed]
      exact ⟨⟨⟨hserves.sized, hserves.aligned, hserves.writable⟩, rfl, hserves.underway,
        hserves.ahead, hserves.delivered⟩, rfl, rfl⟩
  obtain ⟨hserved, hwindow, hsilent⟩ := hannounce
  rw [← hwindow] at hpassed ⊢
  obtain ⟨count, found, hlook, htag, -, hcount⟩ := look?_of_serves hserved hpassed hroom
  refine ⟨count, found.buffer, ?_, hcount⟩
  have hprefix := log_answer
    (u.cancelRetry .render { announced source read seek with pending := none })
    .render found (.done count)
  rw [log_cancelRetry, Read.answer, htag] at hprefix
  rw [stepRender_of_look htask, look_eq hwaiting seek, hlook, hsilent]
  exact hprefix

/-! ## A seek guarantees its reader -/

theorem healthy_start (retryDelay : Nat) {buffer : Buffer} (hb : buffer.Sound)
    (live : buffer.stopped = false) :
    (start (.fresh retryDelay buffer)).ledger.Healthy := by
  intro source hsource
  obtain rfl := Option.some.inj hsource
  exact ⟨hb, live⟩

/-- **A seek guarantees its reader.** After a seek to a position, and whatever comes
later but a seek to another one: the transfer begins no later than there, the byte can
be copied as soon as the frontier has passed it, and no cached block is evicted that
the reader has pinned. So a read whose seek has run is answered by the next look at
it once the frontier has passed its position, in every session. -/
theorem seek_serves_reader (url : Url) (settings : BufferSettings) {cache : Cache}
    (sized : cache.Sized) :
    let fresh := Buffer.withCache url settings cache
    (∀ (calls later : List Buffer.Call) (p : Nat), p < UInt64.size →
        (fresh.after calls).stopped = false → (∀ call ∈ later, call.KeepsReader p) →
        let b := ((fresh.after calls).step (.seek p)).1.after later
        b.readerBlock = some (b.cache.geometry.blockOf p) ∧ b.window.start ≤ p ∧
          (p < b.window.frontier →
            (∃ block, b.cache.block? (b.cache.geometry.blockOf p) = some block ∧
              b.cache.geometry.offsetOf p < block.filled) ∧
            ∀ destination, destination ≠ [] →
              ∃ count out, b.fill p destination = (some count, out) ∧ 0 < count) ∧
          ∀ more, (∀ call ∈ more, call.KeepsReader p) → ∀ id,
            b.cache.geometry.blockOf p ≤ id →
            id ≤ b.cache.geometry.blockOf p + settings.pinnedBlocks → id < UInt64.size →
            b.cache.contains id = true → (b.after more).cache.contains id = true) ∧
      ∀ (retryDelay : Nat) (moves later : List Move) (first next : Runner.Choice) (read : Read),
        read.position < UInt64.size →
        let s := (start (.fresh retryDelay fresh)).play moves
        (s.render.take first).1 = some (.look true) → s.pending? = some read →
        let t := (s.stepRender first).play later
        ∀ source seek, t.source = some source → source.pending = some read →
          read.position < source.buffer.window.frontier →
          (t.render.take next).1 = some (.look seek) →
          ∃ count out,
            t.log ++ [.read read.tag (.done count) out .render] <+: (t.stepRender next).log ∧
              (0 < count ∨ source.buffer.window.isPastEnd read.position = true) := by
  intro fresh
  have hfresh : fresh.Sound := Buffer.sound_withCache url settings sized
  refine ⟨?_, ?_⟩
  · intro calls later p hp live hlater b
    have hb : b.Serves p := ((hfresh.after calls).seek live p).after hp later hlater
    have hsettings : b.settings = settings := by
      show (((fresh.after calls).after [.seek p]).after later).settings = settings
      rw [Buffer.settings_after, Buffer.settings_after, Buffer.settings_after]
      rfl
    refine ⟨hb.reader, hb.ahead, fun hpassed => ⟨?_, fun destination hroom => ?_⟩, ?_⟩
    · exact Cache.block?_of_isSome_byte? (hb.delivered hpassed)
    · exact hb.fill hpassed hroom
    · intro more hmore id hlo hhi hid hin
      rw [← hsettings] at hhi
      exact hb.contains_after hp more hmore hlo hhi hid hin
  · intro retryDelay moves later first next read hp s htask hpending t source seek hsource
      hsourcepending hpassed hlook
    obtain ⟨hsteps, hroutine⟩ := steps_play (routine_start (.fresh retryDelay fresh)) moves
    have hs : s.ledger.Balanced := balanced_play retryDelay fresh moves
    have hh : s.ledger.Healthy :=
      hsteps.induction (fun _ _ h hl => hl.step h) (healthy_start retryDelay hfresh rfl)
    have hfirst := attends_stepRender hs hh hp htask hpending
    -- From the first look on, all that happens are steps of the ledger.
    obtain ⟨hlooked, hnext⟩ := steps_move hroutine (.stepRender first)
    obtain ⟨hrest, -⟩ := steps_play hnext later
    refine stepRender_answers ?_ ?_ ?_ hsource hsourcepending hpassed hlook
    · exact (hlooked.trans hrest).induction (fun _ _ h hl => hl.step h) hs
    · exact (hlooked.trans hrest).induction (fun _ _ h hl => hl.step h) hh
    · exact hrest.induction (P := fun l => l.Attends read) (fun _ _ h hl => hl.step h hp) hfirst

/-- A cache with room for one block, and two transfers of four blocks: the reader's
block stays, and the read that waits for the second byte of it is answered when the
timer has run out. -/
theorem seek_serves_reader_tight_budget :
    let fresh := Buffer.withCache ⟨[], [], [], none, none, .rigid [], none, none⟩ ⟨2, 2, 4, 0⟩
      (.empty "" ⟨2⟩ 4)
    let signals : List Signal := [.head ⟨206, none, some ⟨4, 19, none⟩⟩,
      .bytes [4, 5, 6, 7, 8, 9], .bytes [10, 11, 12, 13, 14, 15, 16, 17, 18, 19]]
    let b := ((fresh.after [.begin]).step (.seek 5)).1.after (signals.map (.deliver 2))
    let s := (start (.fresh 10 fresh)).play [.read ⟨5, [0, 0]⟩ .done]
    let t := (s.stepRender .own).play [.deliver none signals, .stepIo .own, .stepRender .own,
      .stepRender .own, .advance 11, .stepRender .own]
    (∃ count out, b.fill 5 [0, 0] = (some count, out) ∧ 0 < count) ∧
      (b.after []).cache.contains 1 = true ∧
      ∃ count out, t.log ++ [.read 0 (.done count) out .render] <+: (t.stepRender .own).log := by
  intro fresh signals b s t
  obtain ⟨hbuffer, hsession⟩ := seek_serves_reader ⟨[], [], [], none, none, .rigid [], none, none⟩
    ⟨2, 2, 4, 0⟩ (Cache.sized_empty "" ⟨2⟩ 4)
  obtain ⟨-, -, hdelivered, hpinned⟩ :=
    hbuffer [.begin] (signals.map (.deliver 2)) 5 (by decide) (by decide) (by decide)
  obtain ⟨count, out, hanswer, -⟩ := hsession 10 [.read ⟨5, [0, 0]⟩ .done]
    [.deliver none signals, .stepIo .own, .stepRender .own, .stepRender .own, .advance 11,
      .stepRender .own] .own .own ⟨0, 5, [0, 0], .done⟩ (by decide) (by decide) (by decide)
    (t.source.get (by decide)) false (Option.some_get _).symm (by decide) (by decide) (by decide)
  refine ⟨(hdelivered (by decide)).2 [0, 0] (by decide), ?_, count, out, hanswer⟩
  exact hpinned [] (by decide) 1 (by decide) (by decide) (by decide) (by decide)

end Session

end RemoteSource

end ReadAhead
