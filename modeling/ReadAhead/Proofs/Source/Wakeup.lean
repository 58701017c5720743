/-
Why a pending read is looked at again. After a look that finds nothing, a source has
its timer and no more; if that were lost, the read would wait for ever, and if it were
set twice, the cache would be looked at ever more often. Timers are set and cancelled
by looks that may come from a timer themselves, or are left over from an earlier read,
and by stops in between.

`Timed` says that the only delayed task of the render runner is the timer that the
source knows of, and that it is there only while a read waits. `Wakeful` adds that
somebody will look: a task that is queued, or that timer. The look that is taken off
the queue is the only step that breaks the second half, and it restores it before
anything else can happen.
-/
import ReadAhead.Proofs.Runner.Timers
import ReadAhead.Proofs.Source.Service

set_option autoImplicit false

namespace ReadAhead.RemoteSource.Session

/-! ## The invariant -/

/-- The delayed tasks of the render runner are the timer of the source, which it has
only while a read waits. -/
structure Timed (delay : Nat) (s : Session) : Prop where
  paced : s.render.Paced delay (.look false)
  delay : ∀ source, s.source = some source → source.retryDelay = delay
  owned : ∀ timer ∈ s.render.live, ∃ source read,
    s.waiting? = some (source, read) ∧ source.retry = some timer

/-- If a read waits, a look is queued, or a timer will bring one. -/
def Attended (s : Session) : Prop :=
  s.waiting?.isSome = true →
    (∃ seek, .run (.look seek) ∈ s.render.queue) ∨ ∃ timer, timer ∈ s.render.live

structure Wakeful (delay : Nat) (s : Session) : Prop extends Timed delay s where
  attended : s.Attended

variable {delay : Nat} {s : Session}

theorem wakeful_start (delay : Nat) (buffer : Buffer) :
    (start (.fresh delay buffer)).Wakeful delay where
  paced := Runner.paced_idle
  delay := fun _ hsource => Option.some.inj hsource ▸ rfl
  owned := nofun
  attended := nofun

/-- Where no read waits there is no timer, so nothing has to be shown of it. -/
theorem Timed.live_eq_nil (h : s.Timed delay) (hidle : s.waiting? = none) :
    s.render.live = [] := by
  refine List.eq_nil_iff_forall_not_mem.2 fun timer hin => ?_
  obtain ⟨source, read, hwaiting, -⟩ := h.owned timer hin
  rw [hidle] at hwaiting
  exact absurd hwaiting nofun

theorem wakeful_of_idle (paced : s.render.Paced delay (.look false))
    (hdelay : ∀ source, s.source = some source → source.retryDelay = delay)
    (hlive : s.render.live = []) (hidle : s.waiting? = none) : s.Wakeful delay where
  paced := paced
  delay := hdelay
  owned := by
    rw [hlive]
    exact nofun
  attended := by
    unfold Attended
    rw [hidle]
    exact nofun

/-- Events, and the I/O runner, have no part in it. -/
theorem Wakeful.of_eq (h : s.Wakeful delay) {t : Session} (hsource : t.source = s.source)
    (hrender : t.render = s.render) : t.Wakeful delay := by
  have hwaiting : t.waiting? = s.waiting? := by
    unfold waiting?
    rw [hsource]
  refine ⟨⟨hrender ▸ h.paced, hsource ▸ h.delay, ?_⟩, ?_⟩
  · rw [hrender, hwaiting]
    exact h.owned
  · unfold Attended
    rw [hrender, hwaiting]
    exact h.attended

/-- What the buffer has, and whether the source is to be opened, has no part in it. -/
theorem Wakeful.of_same (h : s.Wakeful delay) {t : Session} {source other : RemoteSource}
    (hs : s.source = some source) (ht : t.source = some other) (hrender : t.render = s.render)
    (hdelay : other.retryDelay = source.retryDelay) (hstopped : other.stopped = source.stopped)
    (hpending : other.pending = source.pending) (hretry : other.retry = source.retry) :
    t.Wakeful delay := by
  have hwaiting : ∀ read, s.waiting? = some (source, read) ↔ t.waiting? = some (other, read) := by
    intro read
    rw [waiting?_eq_some, waiting?_eq_some, hs, ht, hstopped, hpending]
    simp only [true_and]
  refine ⟨⟨hrender ▸ h.paced, fun found hfound => ?_, fun timer hin => ?_⟩, fun hwaits => ?_⟩
  · obtain rfl := Option.some.inj (ht.symm.trans hfound)
    exact hdelay.trans (h.delay source hs)
  · rw [hrender] at hin
    obtain ⟨found, read, hfound, htimer⟩ := h.owned timer hin
    obtain ⟨hsource, -, -⟩ := waiting?_eq_some.1 hfound
    obtain rfl := Option.some.inj (hs.symm.trans hsource)
    exact ⟨other, read, (hwaiting read).1 hfound, hretry.trans htimer⟩
  · rw [hrender]
    obtain ⟨⟨found, read⟩, hfound⟩ := Option.isSome_iff_exists.1 hwaits
    obtain ⟨hsource, -, -⟩ := waiting?_eq_some.1 hfound
    obtain rfl := Option.some.inj (ht.symm.trans hsource)
    exact h.attended (by rw [(hwaiting read).2 hfound]; rfl)

/-! ## Tasks that are queued -/

theorem Timed.post (h : s.Timed delay) (place : Place) (task : Task) :
    (s.post place task).Timed delay where
  paced := h.paced.post (side place) task
  delay := h.delay
  owned := fun timer hin =>
    h.owned timer ((Runner.mem_live_post (side place) h.paced.up task).1 hin)

theorem Wakeful.post (h : s.Wakeful delay) (place : Place) (task : Task) :
    (s.post place task).Wakeful delay where
  toTimed := h.toTimed.post place task
  attended := by
    intro hwaits
    rcases h.attended hwaits with ⟨seek, hqueued⟩ | ⟨timer, hlive⟩
    · exact .inl ⟨seek, (Runner.mem_queue_enqueue (side place) _ h.paced.up).2 (.inr hqueued)⟩
    · exact .inr ⟨timer, (Runner.mem_live_post (side place) h.paced.up task).2 hlive⟩

theorem Timed.foldl_absorb (h : s.Timed delay) (effects : List Buffer.Effect) :
    (effects.foldl Session.absorb s).Timed delay :=
  foldl_absorb_induction (P := (·.Timed delay)) (fun _ _ _ h => ⟨h.paced, h.delay, h.owned⟩)
    (fun _ task h => h.post .caller task) h effects

theorem Wakeful.foldl_absorb (h : s.Wakeful delay) (effects : List Buffer.Effect) :
    (effects.foldl Session.absorb s).Wakeful delay :=
  foldl_absorb_induction (P := (·.Wakeful delay)) (fun _ _ _ h => h.of_eq rfl rfl)
    (fun _ task h => h.post .caller task) h effects

theorem source_foldl_absorb (effects : List Buffer.Effect) :
    (effects.foldl Session.absorb s).source = s.source :=
  foldl_absorb_induction (P := (·.source = s.source)) (fun _ _ _ h => h) (fun _ _ h => h) rfl
    effects

theorem log_foldl_absorb (effects : List Buffer.Effect) :
    s.log <+: (effects.foldl Session.absorb s).log :=
  foldl_absorb_induction (P := (s.log <+: ·.log))
    (fun _ _ _ h => h.trans (List.prefix_append _ _)) (fun _ _ h => h) List.prefix_rfl effects

/-! ## The timer -/

section

variable (source : RemoteSource) (paced : s.render.Paced delay (.look false))
  (known : ∀ timer ∈ s.render.live, source.retry = some timer)

include paced known

/-- **Cancelling the timer that the source knows of leaves none.** -/
theorem cancelRetry_live (place : Place) :
    (s.cancelRetry place source).source = some { source with retry := none } ∧
      (s.cancelRetry place source).render.Paced delay (.look false) ∧
      (s.cancelRetry place source).render.live = [] := by
  unfold cancelRetry
  split
  · next hretry =>
    refine ⟨by rw [← hretry], paced, List.eq_nil_iff_forall_not_mem.2 fun timer hin => ?_⟩
    exact absurd (hretry.symm.trans (known timer hin)) nofun
  · next current hretry =>
    refine ⟨rfl, paced.cancel _ _, List.eq_nil_iff_forall_not_mem.2 fun timer hin => ?_⟩
    obtain ⟨hold, hne⟩ := (Runner.mem_live_cancel _ _ paced).1 hin
    exact hne (Option.some.inj ((known timer hold).symm.trans hretry))

/-- **Setting the timer leaves one**, and the source knows of it. -/
theorem armRetry_live (hdelay : source.retryDelay = delay) :
    ∃ timer, (s.armRetry source).source = some { source with retry := some timer } ∧
      (s.armRetry source).render.Paced delay (.look false) ∧
      ∀ other, other ∈ (s.armRetry source).render.live ↔ other = timer := by
  obtain ⟨-, hpaced, hnone⟩ := cancelRetry_live source paced known .render
  obtain ⟨hposted, hlive⟩ := hpaced.postDelayed .inside
  refine ⟨(s.cancelRetry .render source).render.issued, rfl, ?_, fun other => ?_⟩
  · unfold armRetry
    rw [hdelay]
    exact hposted
  · unfold armRetry
    rw [hdelay]
    refine (hlive other).trans (or_iff_left ?_)
    rw [hnone]
    exact List.not_mem_nil

end

/-- The timers that run are the one that the waiting source knows of. -/
theorem Timed.known (h : s.Timed delay) {source : RemoteSource} (hsource : s.source = some source) :
    ∀ timer ∈ s.render.live, source.retry = some timer := by
  intro timer hin
  obtain ⟨other, read, hwaiting, hretry⟩ := h.owned timer hin
  obtain ⟨hother, -, -⟩ := waiting?_eq_some.1 hwaiting
  obtain rfl := Option.some.inj (hsource.symm.trans hother)
  exact hretry

/-! ## Asking -/

/-- **A read that is accepted is looked at.** The induction is on the plan. -/
theorem Wakeful.ask (h : s.Wakeful delay) (place : Place) (plan : Plan) :
    (s.ask place plan).Wakeful delay := by
  induction plan generalizing s with
  | done => exact h
  | ask first inside rest ihInside ihRest =>
    unfold Session.ask
    cases hsource : s.source with
    | none => exact h
    | some source =>
      dsimp only
      cases hrefusal : source.refusal? first with
      | some failure =>
        exact ihRest (ihInside (h.of_same hsource rfl rfl rfl rfl rfl rfl))
      | none =>
        obtain ⟨-, -, hpending⟩ := refusal?_eq_none hrefusal
        have hidle : s.waiting? = none := by
          unfold waiting?
          rw [hsource]
          dsimp only
          rw [hpending]
          split <;> rfl
        have hlive := h.toTimed.live_eq_nil hidle
        refine ihRest ⟨⟨h.paced.post _ _, ?_, fun timer hin => ?_⟩, fun _ => .inl ⟨true, ?_⟩⟩
        · rintro other hother
          obtain rfl := Option.some.inj hother
          exact h.delay source hsource
        · have hold := (Runner.mem_live_post (side place) h.paced.up (Task.look true)).1 hin
          rw [hlive] at hold
          exact absurd hold List.not_mem_nil
        · exact (Runner.mem_queue_enqueue (side place) _ h.paced.up).2 (.inl rfl)

theorem Wakeful.answer (h : s.Wakeful delay) (place : Place) (read : Read)
    (result : Read.Result) : (s.answer place read result).Wakeful delay :=
  Wakeful.ask (s := s.record (read.answer result place)) (h.of_eq rfl rfl) place read.followUps

/-! ## Tasks of the render runner -/

/-- **A look sets the timer, or answers the read**, whoever looked. The answer is told
when the read is off the books and the timer is cancelled, so what is asked inside of it
is asked of a source at rest. -/
theorem Timed.look_cases (h : s.Timed delay) {source : RemoteSource} {read : Read}
    (hwaiting : s.waiting? = some (source, read)) (seek : Bool) :
    ((s.look seek).Wakeful delay ∧ ∃ other timer,
        (s.look seek).waiting? = some (other, read) ∧ timer ∈ (s.look seek).render.live) ∨
      ∃ (t : Session) (found : Read) (count : Nat), t.Wakeful delay ∧ s.log <+: t.log ∧
        found.tag = read.tag ∧ s.look seek = t.answer .render found (.done count) := by
  obtain ⟨hsource, live, waits⟩ := waiting?_eq_some.1 hwaiting
  let heard : Session := (announce source read seek).2.foldl Session.absorb s
  have hheard : heard.Timed delay := h.foldl_absorb _
  have hknown := hheard.known ((source_foldl_absorb _).trans hsource)
  have hdelay := h.delay source hsource
  rw [look_eq hwaiting seek]
  cases hfound : (announced source read seek).look? read with
  | none =>
    obtain ⟨timer, harmed, hpaced, htimer⟩ := armRetry_live
      (announced source read seek) hheard.paced hknown hdelay
    have hstill : (heard.armRetry (announced source read seek)).waiting? =
        some ({ announced source read seek with retry := some timer }, read) :=
      waiting?_eq_some.2 ⟨harmed, live, waits⟩
    have hlive : timer ∈ (heard.armRetry (announced source read seek)).render.live :=
      (htimer timer).2 rfl
    refine .inl ⟨⟨⟨hpaced, fun other hother => ?_, fun other hin => ?_⟩, fun _ => ?_⟩, ?_⟩
    · obtain rfl := Option.some.inj (harmed.symm.trans hother)
      exact hdelay
    · obtain rfl := (htimer other).1 hin
      exact ⟨_, read, hstill, rfl⟩
    · exact .inr ⟨timer, hlive⟩
    · exact ⟨_, timer, hstill, hlive⟩
  | some result =>
    obtain ⟨count, found⟩ := result
    obtain ⟨htag, -⟩ := look?_returns hfound
    obtain ⟨hleft, hpaced, hnone⟩ := cancelRetry_live
      { announced source read seek with pending := none } hheard.paced hknown .render
    refine .inr ⟨_, found, count, wakeful_of_idle hpaced (fun other hother => ?_) hnone ?_, ?_,
      htag, rfl⟩
    · obtain rfl := Option.some.inj (hleft.symm.trans hother)
      exact hdelay
    · unfold waiting?
      rw [hleft]
      dsimp only
      split <;> rfl
    · rw [log_cancelRetry]
      exact log_foldl_absorb _

/-- **A look leaves a read attended to.** -/
theorem Timed.look (h : s.Timed delay) (seek : Bool) : (s.look seek).Wakeful delay := by
  cases hwaiting : s.waiting? with
  | none =>
    have hlook : s.look seek = s := by
      unfold Session.look
      rw [hwaiting]
    rw [hlook]
    exact wakeful_of_idle h.paced h.delay (h.live_eq_nil hwaiting) hwaiting
  | some waiting =>
    rcases h.look_cases hwaiting seek with ⟨hset, -⟩ | ⟨t, found, count, ht, -, -, hanswer⟩
    · exact hset
    · rw [hanswer]
      exact ht.answer .render found _

theorem Wakeful.report (h : s.Wakeful delay) (success : Bool) :
    (s.report success).Wakeful delay := by
  unfold Session.report
  split
  · exact h
  next source hsource =>
  split
  · exact h
  split
  · exact h
  · exact h.of_same hsource rfl rfl rfl rfl rfl rfl

/-- Taking a step that is no look leaves the looks that are queued, and the timer. -/
theorem Wakeful.take (h : s.Wakeful delay) {choice : Runner.Choice}
    (hnone : ∀ seek, (s.render.take choice).1 ≠ some (.look seek)) :
    ({ s with render := (s.render.take choice).2 } : Session).Wakeful delay where
  paced := (h.paced.take choice).1
  delay := h.delay
  owned := fun timer hin => h.owned timer ((h.paced.take choice).2.live timer hin)
  attended := by
    intro hwaits
    have htaken := (h.paced.take choice).2
    rcases h.attended hwaits with ⟨seek, hqueued⟩ | ⟨timer, hlive⟩
    · exact .inl ⟨seek, (htaken.others _ hqueued).resolve_right (hnone seek)⟩
    · exact .inr ⟨timer, (htaken.delayed timer hlive).resolve_right (hnone false)⟩

theorem Timed.take (h : s.Timed delay) (choice : Runner.Choice) :
    ({ s with render := (s.render.take choice).2 } : Session).Timed delay where
  paced := (h.paced.take choice).1
  delay := h.delay
  owned := fun timer hin => h.owned timer ((h.paced.take choice).2.live timer hin)

/-- **Every step of the render runner leaves a read attended to.** A look is the one
task that was counted on, and it does what it was counted on for. -/
theorem Wakeful.stepRender (h : s.Wakeful delay) (choice : Runner.Choice) :
    (s.stepRender choice).Wakeful delay := by
  rw [stepRender_eq]
  cases htask : (s.render.take choice).1 with
  | none => exact h.take (by rw [htask]; exact nofun)
  | some task =>
    cases task with
    | look seek => exact (h.toTimed.take choice).look seek
    | report success =>
      have htaken := h.take (by rw [htask]; exact nofun)
      exact htaken.report success
    | refuse tag =>
      have htaken := h.take (by rw [htask]; exact nofun)
      exact htaken.of_eq rfl rfl

/-! ## Calls, and the other side -/

/-- **Taking leave cancels the timer** before anybody is told, so that nothing that is
asked for inside an answer finds it set. -/
theorem Timed.dismiss (h : s.Timed delay) {source : RemoteSource}
    (hsource : s.source = some source) {left : Option RemoteSource}
    (hdelay : ∀ other, left = some other → other.retryDelay = delay)
    (hclosed : ∀ other, left = some other → other.stopped = true) :
    (s.dismiss source left).Wakeful delay := by
  obtain ⟨-, hpaced, hnone⟩ := cancelRetry_live source h.paced (h.known hsource) .caller
  let t : Session := { s.cancelRetry .caller source with source := left }
  have hidle : t.waiting? = none := by
    unfold waiting?
    cases left with
    | none => rfl
    | some other => exact if_pos (hclosed other rfl)
  have ht : t.Wakeful delay := wakeful_of_idle hpaced hdelay hnone hidle
  have htold : (t.failRead source).Wakeful delay := by
    unfold failRead
    cases source.pending with
    | none => exact ht
    | some read => exact ht.answer .caller read _
  unfold Session.dismiss
  cases source.opening with
  | none => exact htold
  | some tag => exact htold.of_eq rfl rfl

theorem Wakeful.stop (h : s.Wakeful delay) : s.stop.Wakeful delay := by
  unfold Session.stop
  cases hsource : s.source with
  | none => exact h
  | some source =>
    refine h.toTimed.dismiss hsource (fun other hother => ?_) (fun other hother => ?_)
    · obtain rfl := Option.some.inj hother
      exact h.delay source hsource
    · obtain rfl := Option.some.inj hother
      rfl

theorem Wakeful.drop (h : s.Wakeful delay) : s.drop.Wakeful delay := by
  unfold Session.drop
  cases hsource : s.source with
  | none => exact h
  | some source =>
    exact h.toTimed.dismiss hsource
      (fun other hother => absurd hother.symm (Option.some_ne_none other))
      fun other hother => absurd hother.symm (Option.some_ne_none other)

theorem Wakeful.requestOpen (h : s.Wakeful delay) : s.requestOpen.Wakeful delay := by
  unfold Session.requestOpen
  cases hsource : s.source with
  | none => exact h
  | some source =>
    dsimp only
    split
    · let t : Session := { s with source := some source, opened := s.opened + 1 }
      refine Wakeful.post (s := t) ?_ .caller _
      exact h.of_same hsource rfl rfl rfl rfl rfl rfl
    · exact h.of_same hsource rfl rfl rfl rfl rfl rfl

theorem Wakeful.call (h : s.Wakeful delay) (calls : List Buffer.Call) :
    (s.call calls).Wakeful delay := by
  unfold Session.call
  cases hsource : s.source with
  | none => exact h
  | some source =>
    refine Wakeful.foldl_absorb ?_ (source.buffer.run calls).2
    exact h.of_same hsource rfl rfl rfl rfl rfl rfl

/-- **Every move leaves a pending read attended to.** -/
theorem Wakeful.move (h : s.Wakeful delay) (m : Move) : (s.move m).Wakeful delay := by
  cases m with
  | requestOpen => exact h.requestOpen
  | read first inside => exact h.ask .caller _
  | stop => exact h.stop
  | drop => exact h.drop
  | deliver fetch signals =>
    show (s.deliver fetch signals).Wakeful delay
    unfold Session.deliver
    split
    · exact h
    · dsimp only
      split
      · exact h
      · exact h.of_eq rfl rfl
  | stepRender choice => exact h.stepRender choice
  | stepIo choice =>
    show (s.stepIo choice).Wakeful delay
    unfold Session.stepIo
    split
    · next calls io _ => exact Wakeful.call (s := { s with io }) (h.of_eq rfl rfl) calls
    · exact h.of_eq rfl rfl
  | advance ms => exact ⟨⟨h.paced.advance ms, h.delay, h.owned⟩, h.attended⟩

/-- **Every run leaves a pending read attended to.** -/
theorem Wakeful.play (h : s.Wakeful delay) (moves : List Move) :
    (s.play moves).Wakeful delay := by
  induction moves generalizing s with
  | nil => exact h
  | cons m rest ih => exact ih (h.move m)

/-! ## What a look achieves -/

/-- **A look answers the read, or a timer will bring the next look.** -/
theorem Timed.look_answers (h : s.Timed delay) {source : RemoteSource} {read : Read}
    (hwaiting : s.waiting? = some (source, read)) (seek : Bool) :
    (∃ count buffer, Event.read read.tag (.done count) buffer .render ∈
        (s.look seek).log.drop s.log.length) ∨
      ∃ other timer, (s.look seek).waiting? = some (other, read) ∧
        timer ∈ (s.look seek).render.live := by
  rcases h.look_cases hwaiting seek with ⟨-, hset⟩ | ⟨t, found, count, -, hheard, htag, hanswer⟩
  · exact .inr hset
  · -- First what the seek brings about is heard, and then the answer.
    obtain ⟨heard, hheard⟩ := hheard
    obtain ⟨rest, hrest⟩ := log_answer t .render found (.done count)
    rw [← hheard, Read.answer, htag, List.append_assoc, List.append_assoc] at hrest
    refine .inl ⟨count, found.buffer, ?_⟩
    rw [hanswer, ← hrest, List.drop_left]
    exact List.mem_append_right _ (List.mem_append_left _ List.mem_cons_self)

theorem Timed.length_live_le (h : s.Timed delay) : s.render.live.length ≤ 1 := by
  have hdistinct := h.paced.distinct
  cases hlive : s.render.live with
  | nil => exact Nat.zero_le _
  | cons first rest =>
    cases rest with
    | nil => exact Nat.le_refl _
    | cons second rest =>
      -- The source knows of one timer only.
      obtain ⟨source, read, hwaiting, hfirst⟩ :=
        h.owned first (by rw [hlive]; exact List.mem_cons_self)
      obtain ⟨hsource, -, -⟩ := waiting?_eq_some.1 hwaiting
      have hsecond := h.known hsource second
        (by rw [hlive]; exact List.mem_cons_of_mem _ List.mem_cons_self)
      rw [hlive, Option.some.inj (hfirst.symm.trans hsecond)] at hdistinct
      exact absurd List.mem_cons_self (List.nodup_cons.1 hdistinct).1

/-! ## No read is forgotten -/

/-- **A pending read is never forgotten.** On every run, as long as a read is pending
and the source is not stopped, a look is queued on the render runner or a timer with
the retry delay will bring one; and whichever comes up, the look answers the read or
leaves such a timer. There is never more than one timer, and none while no read is
pending, or after the source was stopped or given up. -/
theorem pending_read_attended (retryDelay : Nat) (buffer : Buffer) (moves : List Move) :
    let s := (start (.fresh retryDelay buffer)).play moves
    (∀ source read, s.source = some source → source.pending = some read →
        source.stopped = false →
        ((∃ seek, .run (.look seek) ∈ s.render.queue) ∨
          ∃ timer, s.render.Alive timer retryDelay (.look false)) ∧
        ∀ choice seek, (s.render.take choice).1 = some (.look seek) →
          let t := s.stepRender choice
          (∃ count out, Event.read read.tag (.done count) out .render ∈ t.log.drop s.log.length) ∨
          ∃ other timer, t.source = some other ∧ other.pending = some read ∧
            other.stopped = false ∧ t.render.Alive timer retryDelay (.look false)) ∧
      s.render.live.length ≤ 1 ∧
      ((∀ source, s.source = some source → source.pending = none ∨ source.stopped = true) →
        s.render.live = []) := by
  intro s
  have h : s.Wakeful retryDelay := (wakeful_start retryDelay buffer).play moves
  refine ⟨fun source read hsource waits live => ⟨?_, fun choice seek htask => ?_⟩,
    h.toTimed.length_live_le, fun hidle => h.toTimed.live_eq_nil ?_⟩
  · have hwaiting : s.waiting? = some (source, read) := waiting?_eq_some.2 ⟨hsource, live, waits⟩
    rcases h.attended (by rw [hwaiting]; rfl) with hqueued | ⟨timer, hlive⟩
    · exact .inl hqueued
    · exact .inr ⟨timer, h.paced.alive hlive⟩
  · have hwaiting : ({ s with render := (s.render.take choice).2 } : Session).waiting? =
        some (source, read) := waiting?_eq_some.2 ⟨hsource, live, waits⟩
    have hstep := h.stepRender choice
    rw [stepRender_of_look htask] at hstep ⊢
    refine ((h.toTimed.take choice).look_answers hwaiting seek).imp_right ?_
    rintro ⟨other, timer, hstill, hlive⟩
    obtain ⟨hother, hlivestill, hwaits⟩ := waiting?_eq_some.1 hstill
    exact ⟨other, timer, hother, hwaits, hlivestill, hstep.paced.alive hlive⟩
  · cases hwaiting : s.waiting? with
    | none => rfl
    | some waiting =>
      obtain ⟨source, read⟩ := waiting
      obtain ⟨hsource, live, waits⟩ := waiting?_eq_some.1 hwaiting
      rcases hidle source hsource with hnone | hstopped
      · exact absurd (hnone.symm.trans waits) nofun
      · exact absurd (live.symm.trans hstopped) Bool.false_ne_true

/-- A read of which nothing has arrived. Its timer has run out, the look that it brings
sets it again, and a stop leaves no timer behind. -/
theorem pending_read_attended_retry :
    let fresh := Buffer.withCache ⟨[], [], [], none, none, .rigid [], none, none⟩ ⟨2, 2, 8, 0⟩
      (.empty "" ⟨2⟩ 8)
    let s := (start (.fresh 10 fresh)).play
      [.read ⟨5, [0, 0]⟩ .done, .stepRender .own, .stepRender .own, .advance 11, .stepRender .own]
    (s.render.take .own).1 = some (.look false) ∧
      (∃ timer, (s.stepRender .own).render.Alive timer 10 (.look false)) ∧
      (s.stepRender .own).stop.render.live = [] := by
  intro fresh s
  let moves : List Move :=
    [.read ⟨5, [0, 0]⟩ .done, .stepRender .own, .stepRender .own, .advance 11, .stepRender .own]
  have htask : (s.render.take .own).1 = some (.look false) := by decide
  have hsilent : (s.stepRender .own).log.drop s.log.length = [] := by decide
  obtain ⟨hlooked, -, -⟩ := pending_read_attended 10 fresh moves
  obtain ⟨-, -, hstopped⟩ := pending_read_attended 10 fresh (moves ++ [.stepRender .own, .stop])
  refine ⟨htask, ?_, hstopped fun source hsource => .inl ?_⟩
  · obtain ⟨-, hnext⟩ := hlooked (s.source.get (by decide)) ⟨0, 5, [0, 0], .done⟩
      (Option.some_get _).symm (by decide) (by decide)
    rcases hnext .own false htask with ⟨count, out, hin⟩ | ⟨other, timer, -, -, -, halive⟩
    · rw [hsilent] at hin
      exact absurd hin List.not_mem_nil
    · exact ⟨timer, halive⟩
  · have hnone : (s.stepRender .own).stop.source.map (·.pending) = some none := by decide
    have hsome : (s.stepRender .own).stop.source = some source := hsource
    rw [hsome] at hnone
    exact Option.some.inj hnone

end ReadAhead.RemoteSource.Session
