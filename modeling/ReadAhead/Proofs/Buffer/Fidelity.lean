/-
What a buffer hands out are bytes of the resource, at their places, as long as the
server is honest about the transfer that is current. Nothing is asked of transfers
that were given up, and nothing of bodies that no honest head has placed.

Honesty is a condition on a run: `heard` follows what the current transfer has
delivered so far, and `TruthfulRun` asks at every step that the server could have
sent it. Chunks may be cut and the body may break off anywhere, since all that is
asked of a body is to be a prefix.

The invariant is `Faithful`. Its core is `placed`: if the bytes heard so far end
at position `e` of the resource, then `start - e` bytes are still to be dropped and
the frontier is the later one of `start` and `e`. So the two ways to answer a
request -- from the start of the transfer, or from byte 0 whatever was asked for --
need no case of their own once the head is in.
-/
import ReadAhead.Proofs.Buffer.Step
import ReadAhead.Proofs.Buffer.Fill

set_option autoImplicit false

namespace ReadAhead

/-! ## Honest answers -/

/-- Where in the resource the body of an answer begins, for a transfer from
`start` on. Nowhere if the answer is an error, or is misplaced. -/
def Head.origin? (head : Head) (start : Nat) : Option Nat :=
  if !head.isSuccess then none
  else if !head.isPartial then some 0
  else match head.contentRange with
    | some range => if range.first = start then some start else none
    | none => some start

namespace Signal

/-- The heads among the signals of a transfer. -/
def heads : List Signal → List Head
  | [] => []
  | .head first :: rest => first :: heads rest
  | _ :: rest => heads rest

/-- The chunks among the signals of a transfer, put together. -/
def payload : List Signal → Bytes
  | [] => []
  | .bytes chunk :: rest => chunk ++ payload rest
  | _ :: rest => payload rest

/-- There is at most one head, and it comes before the body. -/
def InOrder : List Signal → Prop
  | [] => True
  | .head _ :: rest | .bytes _ :: rest => heads rest = []
  | .ended _ :: rest => InOrder rest

instance decidableInOrder : (heard : List Signal) → Decidable (InOrder heard)
  | [] => .isTrue trivial
  | .head _ :: rest | .bytes _ :: rest => inferInstanceAs (Decidable (heads rest = []))
  | .ended _ :: rest => decidableInOrder rest

theorem heads_append (heard more : List Signal) :
    heads (heard ++ more) = heads heard ++ heads more := by
  induction heard with
  | nil => rfl
  | cons signal rest ih => cases signal <;> simp [heads, ih]

theorem payload_append (heard more : List Signal) :
    payload (heard ++ more) = payload heard ++ payload more := by
  induction heard with
  | nil => rfl
  | cons signal rest ih => cases signal <;> simp [payload, ih]

/-- Before the head there was neither a head nor a part of the body. -/
theorem InOrder.before_head {heard : List Signal} {first : Head}
    (h : InOrder (heard ++ [.head first])) : heads heard = [] ∧ payload heard = [] := by
  induction heard with
  | nil => exact ⟨rfl, rfl⟩
  | cons signal rest ih =>
    cases signal with
    | ended status => exact ih h
    | head | bytes =>
      rw [List.cons_append, InOrder, heads_append] at h
      simp [heads] at h

/-- A transfer from `start` on of a resource may have delivered these signals. The
sizes it told are the resource's; its body is the resource from the place on that
its head gives it, or anything if the head gives it none. -/
structure Honest (resource : Bytes) (start : Nat) (heard : List Signal) : Prop where
  inOrder : InOrder heard
  sizes : ∀ head ∈ heads heard,
    head.totalSize = none ∨ head.totalSize = some resource.length
  bodies : ∀ head ∈ heads heard, ∀ origin ∈ head.origin? start,
    payload heard <+: resource.drop origin

instance (resource : Bytes) (start : Nat) (heard : List Signal) :
    Decidable (Honest resource start heard) :=
  decidable_of_iff
    (InOrder heard ∧
      (∀ head ∈ heads heard, head.totalSize = none ∨ head.totalSize = some resource.length) ∧
      ∀ head ∈ heads heard, ∀ origin ∈ head.origin? start, payload heard <+: resource.drop origin)
    ⟨fun h => ⟨h.1, h.2.1, h.2.2⟩, fun h => ⟨h.1, h.2, h.3⟩⟩

end Signal

namespace Buffer

open Signal

/-! ## Honest runs -/

/-- What the current transfer has delivered after a call, from what it had
delivered before. Another transfer has delivered nothing yet. -/
def hear (b : Buffer) (heard : List Signal) : Call → List Signal
  | .deliver fetch signal => if b.ignores fetch then heard else heard ++ [signal]
  | call => if (b.step call).1.window.attempt = b.window.attempt then heard else []

/-- At every step of a run, the server is honest about the current transfer, of
which `heard` was delivered before the run. -/
def TruthfulRun (resource : Bytes) (b : Buffer) (heard : List Signal) : List Call → Prop
  | [] => True
  | call :: rest =>
    Honest resource (b.step call).1.window.start (b.hear heard call) ∧
      TruthfulRun resource (b.step call).1 (b.hear heard call) rest

instance decidableTruthfulRun (resource : Bytes) (b : Buffer) (heard : List Signal) :
    (calls : List Call) → Decidable (TruthfulRun resource b heard calls)
  | [] => .isTrue trivial
  | call :: rest =>
    have := decidableTruthfulRun resource (b.step call).1 (b.hear heard call) rest
    inferInstanceAs (Decidable (_ ∧ _))

section

variable {b : Buffer} {heard : List Signal} (call : Call)

/-- A call that delivers nothing and leaves the transfer current adds nothing. -/
theorem hear_of_kept (hcall : ∀ fetch signal, call ≠ .deliver fetch signal)
    (h : (b.step call).1.window.attempt = b.window.attempt) : b.hear heard call = heard := by
  cases call with
  | deliver fetch signal => exact absurd rfl (hcall fetch signal)
  | _ => exact if_pos h

/-- A call that starts another transfer starts the hearing anew. -/
theorem hear_of_new (hcall : ∀ fetch signal, call ≠ .deliver fetch signal)
    (h : (b.step call).1.window.attempt ≠ b.window.attempt) : b.hear heard call = [] := by
  cases call with
  | deliver fetch signal => exact absurd rfl (hcall fetch signal)
  | _ => exact if_neg h

end

/-! ## The invariant -/

/-- What is cached is the resource's, the size is the resource's if it is known, and
the window is where the signals heard of the current transfer have brought it. -/
structure Faithful (resource : Bytes) (b : Buffer) (heard : List Signal) : Prop
    extends Sound b where
  cached : ∀ q x, b.cache.byte? q = some x → resource[q]? = some x
  size : b.window.total = none ∨ b.window.total = some resource.length
  /-- Before the head, nothing was stored and nothing is to be dropped. -/
  quiet : heads heard = [] →
    b.accepting = false ∧ b.window.discard = 0 ∧ b.window.offset = 0
  /-- A body that is stored has its place in the resource. -/
  placed : b.accepting = true →
    ∃ head ∈ heads heard, ∃ origin ∈ head.origin? b.window.start,
      b.window.frontier = max b.window.start (origin + (payload heard).length) ∧
      b.window.discard = b.window.start - (origin + (payload heard).length)

section

variable {resource : Bytes} {b : Buffer} {heard : List Signal}

theorem faithful_withCache (url : Url) (settings : BufferSettings) (label : String)
    (geometry : Geometry) (budget : Nat) (resource : Bytes) :
    Faithful resource (withCache url settings (.empty label geometry budget)) [] where
  toSound := sound_withCache url settings (Cache.sized_empty label geometry budget)
  cached := by
    intro q x hx
    have hnone := Cache.block?_empty label geometry budget (geometry.blockOf q)
    have hbyte : (Cache.empty label geometry budget).byte? q = none := by
      rw [Cache.byte?, show (Cache.empty label geometry budget).geometry = geometry from rfl,
        hnone, Option.bind_none]
    exact absurd (hx.symm.trans hbyte) (Option.some_ne_none x)
  size := .inl rfl
  quiet := fun _ => ⟨rfl, rfl, rfl⟩
  placed := fun h => absurd h Bool.false_ne_true

/-- Of a new transfer nothing was heard; what is cached and known stays. -/
theorem Faithful.fetchFrom (hb : Faithful resource b heard) {position : Nat}
    (h : b.cache.geometry.offsetOf position = 0) :
    Faithful resource (b.fetchFrom position).1 [] where
  toSound := hb.toSound.fetchFrom h
  cached := hb.cached
  size := hb.size
  quiet := fun _ => ⟨rfl, rfl, rfl⟩
  placed := fun h => absurd h Bool.false_ne_true

/-! ### The head -/

/-- The size that is known after a head is the one known before, or the head's. -/
theorem total_accept (head : Head) :
    (b.accept head).window.total = b.window.total ∨
      ∃ total, head.totalSize = some total ∧ (b.accept head).window.total = some total := by
  have hlearn : ∀ b' : Buffer, (b'.learnSize head).window.total = b'.window.total ∨
      ∃ total, head.totalSize = some total ∧
        (b'.learnSize head).window.total = some total := by
    intro b'
    rw [learnSize]
    split
    · next total htotal => exact .inr ⟨total, htotal, rfl⟩
    · exact .inl rfl
  rw [accept]
  dsimp only
  split
  · exact .inl rfl
  · split
    · split <;> exact hlearn _
    · split <;> exact hlearn _

/-- A head has the body stored if the body has a place, and has as much of it
dropped as comes before the start of the transfer. -/
theorem placed_accept (head : Head) (hd : b.window.discard = 0)
    (ha : (b.accept head).accepting = true) :
    ∃ origin ∈ head.origin? b.window.start,
      origin ≤ b.window.start ∧ (b.accept head).window.discard = b.window.start - origin := by
  have hlearn : ∀ b' : Buffer, (b'.learnSize head).window.discard = b'.window.discard ∧
      (b'.learnSize head).window.start = b'.window.start := by
    intro b'
    obtain ⟨total, h⟩ := learnSize_eq b' head
    rw [h]
    exact ⟨rfl, rfl⟩
  obtain ⟨hdiscard, hstart⟩ := hlearn { b with response := some head, accepting := false }
  dsimp only at hdiscard hstart
  rw [accept] at ha ⊢
  rw [Head.origin?]
  dsimp only at ha ⊢
  split at ha
  · exact absurd ha Bool.false_ne_true
  next hsuccess =>
  rw [if_neg hsuccess, if_neg hsuccess]
  split at ha
  · next hpartial =>
    rw [if_pos hpartial, hpartial, if_neg (by decide)]
    cases hrange : head.contentRange with
    | none => exact ⟨b.window.start, rfl, Nat.le_refl _, by dsimp only; omega⟩
    | some range =>
      rw [hrange] at ha
      -- A range that is stored begins where the transfer does.
      have hfirst : range.first = b.window.start := by
        rw [← hstart]
        simpa using ha
      refine ⟨b.window.start, ?_, Nat.le_refl _, by dsimp only; omega⟩
      dsimp only
      rw [if_pos hfirst]
      rfl
  · next hwhole =>
    rw [if_neg hwhole, Bool.eq_false_iff.2 hwhole, if_pos (by decide)]
    refine ⟨0, rfl, Nat.zero_le _, ?_⟩
    split
    · exact hstart
    · next hzero => dsimp only; omega

theorem Faithful.accept (hb : Faithful resource b heard) {head : Head}
    (honest : Honest resource b.window.start (heard ++ [.head head])) :
    Faithful resource { b.accept head with initialized := true } (heard ++ [.head head]) := by
  -- The head is the first thing heard, so nothing was stored and nothing dropped.
  obtain ⟨hheads, hbody⟩ := honest.inOrder.before_head
  obtain ⟨-, hdiscard, hoffset⟩ := hb.quiet hheads
  have hmem : head ∈ heads (heard ++ [.head head]) := by
    rw [heads_append]
    exact List.mem_append_right _ List.mem_cons_self
  refine ⟨hb.toSound.accept head, ?_, ?_, ?_, ?_⟩
  · dsimp only
    rw [cache_accept]
    exact hb.cached
  · dsimp only
    rcases b.total_accept head with hsame | ⟨total, htotal, htold⟩
    · rw [hsame]
      exact hb.size
    · rw [htold, ← htotal]
      exact honest.sizes head hmem
  · intro hnone
    rw [hnone] at hmem
    exact absurd hmem List.not_mem_nil
  · -- Nothing of the body was heard yet, so it ends where it begins.
    intro ha
    obtain ⟨origin, horigin, hle, hd⟩ := placed_accept head hdiscard ha
    refine ⟨head, hmem, origin, ?_, ?_, ?_⟩
    · dsimp only
      rw [start_accept]
      exact horigin
    · dsimp only
      rw [frontier_accept, start_accept, payload_append, hbody, FetchWindow.frontier, hoffset]
      simp only [payload, List.append_nil, List.length_nil]
      omega
    · dsimp only
      rw [start_accept, payload_append, hbody, hd]
      rfl

/-! ### The body -/

/-- **A chunk is stored at its place.** What is left of it once its leading bytes
were dropped begins at the frontier, or nothing is left of it. -/
theorem Faithful.store (hb : Faithful resource b heard) (ha : b.accepting = true) {bytes : Bytes}
    (honest : Honest resource b.window.start (heard ++ [.bytes bytes])) :
    Faithful resource (b.store bytes) (heard ++ [.bytes bytes]) := by
  obtain ⟨head, hhead, origin, horigin, hfrontier, hdiscard⟩ := hb.placed ha
  have hheads : heads (heard ++ [.bytes bytes]) = heads heard := by
    rw [heads_append]
    exact List.append_nil _
  have hbody : payload (heard ++ [.bytes bytes]) = payload heard ++ bytes := by
    rw [payload_append, payload, payload, List.append_nil]
  have hprefix : payload heard ++ bytes <+: resource.drop origin := by
    rw [← hbody]
    exact honest.bodies head (hheads ▸ hhead) origin horigin
  have hdropped : (b.window.takeDiscard bytes.length).1 = min b.window.discard bytes.length := rfl
  have hlength : (b.body bytes).length = bytes.length - min b.window.discard bytes.length := by
    rw [body, List.length_drop, hdropped]
  refine ⟨hb.toSound.store bytes, ?_, hb.size, ?_, ?_⟩
  · intro q x hx
    rw [cache_store, Cache.byte?_ingest hb.sized hb.writable] at hx
    split at hx
    · next hin =>
      -- Bytes are stored, so all that was to be dropped is dropped.
      obtain ⟨hlo, hhi⟩ := hin
      obtain ⟨k, rfl⟩ : ∃ k, q = origin + (payload heard).length + k :=
        ⟨q - (origin + (payload heard).length), by omega⟩
      rw [body, List.getElem?_drop, hdropped] at hx
      have hk : min b.window.discard bytes.length +
          (origin + (payload heard).length + k - b.window.frontier) = k := by omega
      rw [hk] at hx
      have hpart : (payload heard ++ bytes)[(payload heard).length + k]? = some x := by
        rw [List.getElem?_append_right (by omega), Nat.add_sub_cancel_left]
        exact hx
      -- The body so far is a prefix, so its bytes are the resource's.
      obtain ⟨rest, hrest⟩ := hprefix
      have hwhole : (resource.drop origin)[(payload heard).length + k]? = some x := by
        obtain ⟨hlt, -⟩ := List.getElem?_eq_some_iff.1 hpart
        rw [← hrest, List.getElem?_append_left hlt]
        exact hpart
      rw [List.getElem?_drop] at hwhole
      rw [Nat.add_assoc]
      exact hwhole
    · exact hb.cached q x hx
  · intro hnone
    rw [hheads] at hnone
    rw [hnone] at hhead
    exact absurd hhead List.not_mem_nil
  · -- Both sides grow by the chunk, as long as it is seen where the drop ends.
    intro _
    refine ⟨head, hheads ▸ hhead, origin, horigin, ?_, ?_⟩
    · rw [frontier_store, hlength, hbody, List.length_append]
      change _ = max b.window.start _
      omega
    · rw [hbody, List.length_append]
      change b.window.discard - min b.window.discard bytes.length = b.window.start - _
      omega

/-- Eviction only forgets. -/
theorem Faithful.trim (hb : Faithful resource b heard) : Faithful resource b.trim heard := by
  have hfaithful : ∀ cache : Cache, { b with cache := cache }.Sound →
      (∀ q x, cache.byte? q = some x → b.cache.byte? q = some x) →
      Faithful resource { b with cache := cache } heard := fun cache hsound hsub =>
    ⟨hsound, fun q x hx => hb.cached q x (hsub q x hx), hb.size, hb.quiet, hb.placed⟩
  have hsound := hb.toSound.trim
  rw [trim_eq] at hsound ⊢
  refine hfaithful _ hsound fun q x hx => ?_
  rw [Cache.byte?_evict] at hx
  split at hx
  · exact absurd hx.symm (Option.some_ne_none x)
  · exact hx

/-! ### Every call -/

/-- **Every call keeps a buffer faithful**, as long as the server is honest. -/
theorem Faithful.step (hb : Faithful resource b heard) (call : Call)
    (honest : Honest resource (b.step call).1.window.start (b.hear heard call)) :
    Faithful resource (b.step call).1 (b.hear heard call) := by
  have hchange := change_step b call
  generalize hafter : (b.step call).1 = b' at hchange honest ⊢
  generalize (b.step call).2 = effects at hchange
  cases hchange with
  | declined _ h =>
    cases call with
    | begin =>
      rw [hear_of_kept .begin nofun (by rw [hafter])]
      exact hb
    | seek position =>
      rw [hear_of_kept (.seek position) nofun (by rw [hafter])]
      exact hb
    | stop => exact h.elim
    | deliver fetch signal =>
      rw [hear]
      by_cases hi : b.ignores fetch = true
      · rw [if_pos hi]
        exact hb
      rw [if_neg hi]
      -- Only a chunk is heard and yet declined: it has no place to go to.
      cases signal with
      | head | ended => exact absurd h hi
      | bytes bytes =>
        have hnot : b.accepting = false := h.resolve_left hi
        refine ⟨hb.toSound, hb.cached, hb.size, fun hnone => hb.quiet ?_, fun ha => ?_⟩
        · rw [heads_append] at hnone
          exact (List.append_eq_nil_iff.1 hnone).1
        · exact absurd (hnot.symm.trans ha) Bool.false_ne_true
  | began =>
    rw [hear_of_new .begin nofun (by rw [hafter]; exact Nat.succ_ne_self _)]
    exact hb.fetchFrom (Nat.zero_mod _)
  | stayed position =>
    rw [hear_of_kept (.seek position) nofun (by rw [hafter]; rfl)]
    exact ⟨⟨hb.sized, hb.aligned, hb.writable⟩, hb.cached, hb.size, hb.quiet, hb.placed⟩
  | moved position =>
    have hreader : Faithful resource (b.readerAt position) heard :=
      ⟨⟨hb.sized, hb.aligned, hb.writable⟩, hb.cached, hb.size, hb.quiet, hb.placed⟩
    rw [hear_of_new (.seek position) nofun (by rw [hafter]; exact Nat.succ_ne_self _)]
    exact hreader.fetchFrom (b.cache.geometry.offsetOf_startOf _)
  | stopped =>
    rw [hear_of_kept .stop nofun (by rw [hafter]; rfl)]
    exact ⟨⟨hb.sized, hb.aligned, hb.writable⟩, hb.cached, hb.size, hb.quiet, hb.placed⟩
  | headed fetch head heeded =>
    rw [hear, heeded, if_neg Bool.false_ne_true] at honest ⊢
    dsimp only at honest
    rw [start_accept] at honest
    exact hb.accept honest
  | stored fetch bytes heeded accepting =>
    rw [hear, heeded, if_neg Bool.false_ne_true] at honest ⊢
    rw [window_trim] at honest
    exact (hb.store accepting honest).trim
  | ended fetch status heeded =>
    rw [hear, heeded, if_neg Bool.false_ne_true]
    have hheads : heads (heard ++ [.ended status]) = heads heard := by
      rw [heads_append]
      exact List.append_nil _
    have hpayload : payload (heard ++ [.ended status]) = payload heard := by
      rw [payload_append]
      exact List.append_nil _
    refine ⟨⟨hb.sized, hb.aligned, hb.writable⟩, hb.cached, hb.size, ?_, ?_⟩
    · rw [hheads]
      exact hb.quiet
    · rw [hheads, hpayload]
      exact hb.placed

/-- **A buffer stays faithful on the first part of an honest run**, and the rest of the
run is honest about the transfer that is current by then. -/
theorem Faithful.along (hb : Faithful resource b heard) (calls later : List Call)
    (honest : TruthfulRun resource b heard (calls ++ later)) :
    ∃ heard', Faithful resource (b.after calls) heard' ∧
      TruthfulRun resource (b.after calls) heard' later := by
  induction calls generalizing b heard with
  | nil => exact ⟨heard, hb, honest⟩
  | cons call rest ih => exact ih (hb.step call honest.1) honest.2

theorem Faithful.after (hb : Faithful resource b heard) (calls : List Call)
    (honest : TruthfulRun resource b heard calls) :
    ∃ heard', Faithful resource (b.after calls) heard' := by
  obtain ⟨heard', hafter, -⟩ := hb.along calls [] (by rwa [List.append_nil])
  exact ⟨heard', hafter⟩

end

/-! ## What is handed out -/

/-- What is copied out of a faithful buffer is a piece of the resource. -/
theorem Faithful.fill {resource : Bytes} {b : Buffer} {heard : List Signal}
    (hb : Faithful resource b heard) {position count : Nat} {destination out : Bytes}
    (h : b.fill position destination = (some count, out)) :
    position + count ≤ resource.length ∧
      out.take count = (resource.drop position).take count := by
  obtain ⟨hpos, hroom⟩ := count_of_fill h
  have hlength := length_of_fill h
  have hbyte : ∀ i, i < count → out[i]? = resource[position + i]? := by
    intro i hi
    have hcopied := getElem?_of_fill hb.sized h hi
    rw [List.getElem?_eq_getElem (by omega)] at hcopied ⊢
    exact (hb.cached _ _ hcopied.symm).symm
  refine ⟨?_, List.ext_getElem? fun i => ?_⟩
  · -- The last byte that was copied is one of the resource.
    have hlast := hbyte (count - 1) (by omega)
    rw [List.getElem?_eq_getElem (by omega)] at hlast
    obtain ⟨hlt, -⟩ := List.getElem?_eq_some_iff.1 hlast.symm
    omega
  · by_cases hi : i < count
    · rw [List.getElem?_take_of_lt hi, List.getElem?_take_of_lt hi, List.getElem?_drop, hbyte i hi]
    · rw [List.getElem?_take_eq_none (by omega), List.getElem?_take_eq_none (by omega)]

/-- **A buffer hands out the resource and nothing else**, and tells no other size,
on every run from an empty cache on which the server is honest. -/
theorem fill_faithful (url : Url) (settings : BufferSettings) (label : String)
    (geometry : Geometry) (budget : Nat) (resource : Bytes) (calls : List Call)
    (honest : TruthfulRun resource
      (withCache url settings (.empty label geometry budget)) [] calls) :
    let b := (withCache url settings (.empty label geometry budget)).after calls
    (∀ position destination count out, b.fill position destination = (some count, out) →
      position + count ≤ resource.length ∧
        out.take count = (resource.drop position).take count) ∧
      (b.size? = none ∨ b.size? = some resource.length) := by
  intro b
  obtain ⟨heard, hb⟩ :=
    (faithful_withCache url settings label geometry budget resource).after calls honest
  exact ⟨fun _ _ _ _ h => hb.fill h, hb.size⟩

/-- Three transfers of ten bytes: one given up after three bytes, which goes on
talking; one that is answered from byte 0 although it began at byte 8; and one
whose answer is misplaced. -/
theorem fill_faithful_ignored_range :
    let resource : Bytes := [10, 11, 12, 13, 14, 15, 16, 17, 18, 19]
    let calls : List Call :=
      [.begin, .deliver 1 (.head ⟨206, some 10, some ⟨0, 9, some 10⟩⟩),
        .deliver 1 (.bytes [10, 11, 12]), .seek 9, .deliver 1 (.bytes [99]),
        .deliver 2 (.head ⟨200, some 10, none⟩), .deliver 2 (.bytes [10, 11, 12, 13]),
        .deliver 2 (.bytes [14, 15, 16, 17, 18, 19]), .deliver 2 (.ended .completed), .seek 2,
        .deliver 3 (.head ⟨206, some 6, some ⟨4, 9, none⟩⟩), .deliver 3 (.bytes [77, 78])]
    let fresh := withCache ⟨[], [], [], none, none, .rigid [], none, none⟩ ⟨2, 2, 8, 0⟩
      (.empty "" ⟨2⟩ 8)
    TruthfulRun resource fresh [] calls ∧
      (fresh.after calls).fill 8 [0, 0, 0] = (some 2, [18, 19, 0]) ∧ 8 + 2 ≤ resource.length ∧
      [18, 19, 0].take 2 = (resource.drop 8).take 2 ∧
      ((fresh.after calls).size? = none ∨ (fresh.after calls).size? = some 10) := by
  intro resource calls fresh
  have honest : TruthfulRun resource fresh [] calls := by decide
  have hfill : (fresh.after calls).fill 8 [0, 0, 0] = (some 2, [18, 19, 0]) := by decide
  obtain ⟨hbytes, hsize⟩ := fill_faithful _ _ _ _ _ resource calls honest
  exact ⟨honest, hfill, (hbytes _ _ _ _ hfill).1, (hbytes _ _ _ _ hfill).2, hsize⟩

end Buffer

end ReadAhead
