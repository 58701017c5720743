/-
What a buffer may rely on behind a server. Whatever a server does, its client meets an
`Outcome`; and if what the server sends belongs to a resource, then so does the outcome. The
signals that are heard of it are those that an honest run is made of, however the body is cut,
wherever it breaks off and whenever the transfer is interrupted.

So the condition under which a buffer hands out the bytes of a resource, `TruthfulRun`, is
met by every transfer from such a server.
-/
import ReadAhead.Http.Origin
import ReadAhead.Proofs.Http.Delivery

set_option autoImplicit false

namespace ReadAhead

/-! ## Parts of honest answers -/

namespace Signal

variable {resource : Bytes} {start : Nat} {heard more : List Signal}

theorem heads_map_bytes (chunks : List Bytes) : heads (chunks.map .bytes) = [] := by
  induction chunks with
  | nil => rfl
  | cons chunk chunks ih => exact ih

theorem InOrder.of_append (h : InOrder (heard ++ more)) : InOrder heard := by
  induction heard with
  | nil => trivial
  | cons signal rest ih =>
    cases signal with
    | ended status => exact ih h
    | head | bytes =>
      rw [List.cons_append, InOrder, heads_append] at h
      exact (List.append_eq_nil_iff.1 h).1

/-- **What was honest was so at any time before.** -/
theorem Honest.of_append (h : Honest resource start (heard ++ more)) :
    Honest resource start heard where
  inOrder := h.inOrder.of_append
  sizes head hin := by
    refine h.sizes head ?_
    rw [heads_append]
    exact List.mem_append_left _ hin
  bodies head hin origin horigin := by
    have hall : head ∈ heads (heard ++ more) := by
      rw [heads_append]
      exact List.mem_append_left _ hin
    have hbody := h.bodies head hall origin horigin
    rw [payload_append] at hbody
    exact (List.prefix_append _ _).trans hbody

end Signal

namespace Buffer

open Signal

variable {b : Buffer} {fetch : FetchId}

/-- A signal leaves the transfer where it began, and the next one is heeded like it. -/
theorem step_deliver_kept (heeded : b.ignores fetch = false) (signal : Signal) :
    (b.step (.deliver fetch signal)).1.window.start = b.window.start ∧
      (b.step (.deliver fetch signal)).1.ignores fetch = false := by
  have hchange := change_step b (.deliver fetch signal)
  generalize (b.step (.deliver fetch signal)).1 = b' at hchange ⊢
  generalize (b.step (.deliver fetch signal)).2 = effects at hchange
  cases hchange with
  | declined => exact ⟨rfl, heeded⟩
  | headed =>
    refine ⟨start_accept _ _, ?_⟩
    rw [← heeded, ignores, ignores, FetchWindow.isCurrent, FetchWindow.isCurrent]
    dsimp only
    rw [stopped_accept, attempt_accept, phase_accept]
  | stored =>
    rw [trim_eq]
    exact ⟨rfl, heeded⟩
  | ended _ status =>
    simp only [ignores, FetchWindow.isCurrent, Bool.or_eq_false_iff, Bool.not_eq_false',
      Bool.and_eq_true] at heeded ⊢
    obtain ⟨live, -, hcurrent⟩ := heeded
    exact ⟨rfl, live, by cases status <;> rfl, hcurrent⟩

/-- **Signals that are honest together make an honest run**, one by one. The induction is on
those to come; what was heard so far is carried along. -/
theorem truthfulRun_deliver {resource : Bytes} (heeded : b.ignores fetch = false)
    {heard signals : List Signal} (h : Honest resource b.window.start (heard ++ signals)) :
    TruthfulRun resource b heard (signals.map (.deliver fetch)) := by
  induction signals generalizing b heard with
  | nil => trivial
  | cons signal rest ih =>
    obtain ⟨hstart, hnext⟩ := step_deliver_kept heeded signal
    have hhear : b.hear heard (.deliver fetch signal) = heard ++ [signal] := by
      rw [hear, if_neg (by simp [heeded])]
    rw [List.append_cons] at h
    refine ⟨?_, ?_⟩
    · rw [hhear, hstart]
      exact h.of_append
    · rw [hhear]
      exact ih hnext (hstart.symm ▸ h)

end Buffer

namespace Http

/-! ## Answers about a resource -/

/-- An answer belongs to a resource, for a transfer from `start` on: it tells the size of the
resource or none, and its body is the resource from the place on that the head gives it. -/
def AnswersFor (resource : Bytes) (start : Nat) (head : Head) (body : Bytes) : Prop :=
  (head.totalSize = none ∨ head.totalSize = some resource.length) ∧
    ∀ origin ∈ head.origin? start, body <+: resource.drop origin

/-- What comes of a request is no answer, or one that belongs to the resource. -/
def Outcome.AnswersFor (resource : Bytes) (start : Nat) : Outcome → Prop
  | unanswered _ => True
  | answered head chunks _ => Http.AnswersFor resource start head chunks.flatten

/-- What is read of a reply belongs to the resource. -/
def Reply.AnswersFor (resource : Bytes) (start : Nat) (r : Reply) : Prop :=
  ∀ p rest framing, Preamble.readFinal r.wire = .done p rest → p.framing? = some framing →
    Http.AnswersFor resource start (p.head framing) (framing.body rest).1

/-- A server replies with what belongs to the resource, if it replies. -/
def Service.AnswersFor (resource : Bytes) (start : Nat) : Service → Prop
  | refuse | hangUp => True
  | reply r => r.AnswersFor resource start

/-! ## What servers do -/

/-- A body comes in chunks, none of it is lost, and it ends if the server does not stall in
the middle of it. -/
theorem exists_body (framing : Framing) (wire : Bytes) (stalls : Bool) :
    ∃ (chunks : List Bytes) (ending : Option FetchStatus),
      Reply.bodySteps framing wire stalls =
          chunks.map Step.chunk ++ ending.toList.map Step.ofEnding ∧
        chunks.flatten = (framing.body wire).1 := by
  unfold Reply.bodySteps
  obtain ⟨body, ending⟩ := framing.body wire
  have hflatten : ((body.pieces Reply.stride).filter (!·.isEmpty)).flatten = body := by
    rw [List.flatten_filter_not_isEmpty, Bytes.flatten_pieces]
  refine ⟨(body.pieces Reply.stride).filter (!·.isEmpty), ?_⟩
  cases ending with
  | complete => exact ⟨some .completed, rfl, hflatten⟩
  | spoiled => exact ⟨some (.failed _), rfl, hflatten⟩
  | short =>
    cases stalls with
    | true => exact ⟨none, rfl, hflatten⟩
    | false =>
      cases framing with
      | untilClose => exact ⟨some .completed, rfl, hflatten⟩
      | length | chunked => exact ⟨some (.failed _), rfl, hflatten⟩

theorem exists_reply (r : Reply) (stalls : Bool) :
    ∃ o : Outcome, r.steps stalls <+: o.news ∧
      ∀ resource start, r.AnswersFor resource start → o.AnswersFor resource start := by
  unfold Reply.steps
  cases hread : Preamble.readFinal r.wire with
  | done p rest =>
    dsimp only
    cases hframing : p.framing? with
    | none => exact ⟨.unanswered _, List.prefix_rfl, fun _ _ _ => trivial⟩
    | some framing =>
      obtain ⟨chunks, ending, hbody, hflatten⟩ := exists_body framing rest stalls
      refine ⟨.answered (p.head framing) chunks ending, ?_, fun resource start hr => ?_⟩
      · dsimp only
        rw [hbody]
        exact List.prefix_rfl
      · show Http.AnswersFor resource start (p.head framing) chunks.flatten
        rw [hflatten]
        exact hr p rest framing hread hframing
  | short =>
    cases stalls with
    -- A server that stalls before the head leaves everything open.
    | true => exact ⟨.unanswered "", List.nil_prefix, fun _ _ _ => trivial⟩
    | false => exact ⟨.unanswered _, List.prefix_rfl, fun _ _ _ => trivial⟩
  | invalid => exact ⟨.unanswered _, List.prefix_rfl, fun _ _ _ => trivial⟩

/-- **A client meets nothing but outcomes**, whatever the server does, and they belong to the
resource that its answers belong to. -/
theorem exists_outcome (service : Service) (stalls : Bool) :
    ∃ o : Outcome, service.steps stalls <+: o.news ∧
      ∀ resource start, service.AnswersFor resource start → o.AnswersFor resource start := by
  cases service with
  | refuse => exact ⟨.unanswered _, List.prefix_rfl, fun _ _ _ => trivial⟩
  | hangUp => exact ⟨.unanswered _, List.prefix_rfl, fun _ _ _ => trivial⟩
  | reply r => exact exists_reply r stalls

/-! ## Honest runs -/

/-- **An outcome that belongs to a resource is honest about it.** There is one head at most,
it comes first, and the chunks behind it are the body. -/
theorem Outcome.AnswersFor.honest {resource : Bytes} {start : Nat} {o : Outcome}
    (h : o.AnswersFor resource start) : Signal.Honest resource start o.signals := by
  cases o with
  | unanswered reason => exact ⟨trivial, nofun, nofun⟩
  | answered head chunks ending =>
    have hrest : Signal.heads (chunks.map .bytes ++ ending.toList.map .ended) = [] := by
      rw [Signal.heads_append, Signal.heads_map_bytes]
      cases ending <;> rfl
    have hheads : Signal.heads (Outcome.answered head chunks ending).signals = [head] :=
      congrArg (List.cons head) hrest
    have hpayload := (Outcome.answered head chunks ending).payload_signals
    refine ⟨hrest, ?_, ?_⟩
    · rw [hheads]
      intro other hin
      rw [List.mem_singleton.1 hin]
      exact h.1
    · rw [hheads, hpayload]
      intro other hin
      rw [List.mem_singleton.1 hin]
      exact h.2

/-- **What is heard of a server makes an honest run.** A buffer that is told all that a
transfer hears of a server whose answers belong to the resource is told the truth at every
step, however the transfer is interrupted. -/
theorem truthful_deliveries {resource : Bytes} {b : Buffer} {id : FetchId}
    (heeded : b.ignores id = false) {service : Service}
    (answers : service.AnswersFor resource b.window.start) (stalls : Bool) {steps : List Step}
    (sent : steps.filter Step.isNews <+: service.steps stalls) :
    b.TruthfulRun resource [] (((Transfer.start id).deliveries steps).map fun callback =>
      .deliver callback.fetch callback.signal) := by
  obtain ⟨o, hnews, hbelongs⟩ := exists_outcome service stalls
  have honest := (hbelongs resource b.window.start answers).honest
  rw [Transfer.deliveries_eq id o (sent.trans hnews), List.map_map]
  refine Buffer.truthfulRun_deliver heeded ?_
  rw [List.nil_append]
  rw [← List.take_append_drop (steps.takeWhile Step.isNews).length o.signals] at honest
  exact honest.of_append

/-- The file server is asked for its resource from the second byte on. -/
example :
    let server : Origin := ⟨[1, 2, 3], true, false⟩
    let url : Url := ⟨"http".toList, [], [], none, none, .rigid Origin.target, none, none⟩
    let heard := server.signals (.rangeFrom 1 url 1)
    heard = [.head ⟨206, some 2, some ⟨1, 2, some 3⟩⟩, .bytes [2, 3], .ended .completed] ∧
      Signal.Honest server.data 1 heard := by decide +kernel

end Http

end ReadAhead
