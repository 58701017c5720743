/-
The window of a transfer has no hole: between its start and its frontier, every
byte is cached as long as its block is. Blocks are only ever lost whole, to
eviction, so a missing byte behind the frontier is explained by an eviction that
came after the transfer had passed it.

The invariant is `Unbroken`, stated for positions. What the cache looks like in
terms of blocks -- full ones up to the frontier's, that one filled up to the
frontier, none empty -- is read off it at the end. It survives a chunk although
older transfers left blocks half full, because the only block a chunk finds half
full and behind its own first byte is the frontier's, and that one is writable.
-/
import ReadAhead.Proofs.Buffer.Step
import ReadAhead.Proofs.Buffer.Fill
import Mathlib.Data.List.Induction

set_option autoImplicit false

namespace ReadAhead.Buffer

/-! ## The invariant -/

/-- Cached blocks hold their first byte, and every byte the current transfer has
passed. -/
structure Unbroken (b : Buffer) : Prop extends Sound b where
  begun : ∀ id, b.cache.contains id = true →
    (b.cache.byte? (b.cache.geometry.startOf id)).isSome = true
  passed : ∀ p, b.window.start ≤ p → p < b.window.frontier →
    b.cache.contains (b.cache.geometry.blockOf p) = true → (b.cache.byte? p).isSome = true

/-- In front of the frontier and in a block that a chunk touches, a byte is cached:
it lies in the frontier's block, which is filled up to the frontier. -/
theorem Sound.isSome_of_touched {b : Buffer} (hb : b.Sound) {p q : Nat}
    (hp : p < b.window.frontier) (hq : b.window.frontier ≤ q)
    (h : b.cache.geometry.blockOf q = b.cache.geometry.blockOf p) :
    (b.cache.byte? p).isSome = true := by
  have hlo := b.cache.geometry.blockOf_mono (Nat.le_of_lt hp)
  have hhi := b.cache.geometry.blockOf_mono hq
  have hblock : b.cache.geometry.blockOf b.window.frontier = b.cache.geometry.blockOf p := by omega
  -- The frontier's block is filled up to the frontier, and the position lies before it.
  have hw := hb.writable
  rw [Cache.Writable, hblock] at hw
  rw [Cache.isSome_byte?_iff]
  have hsplit := b.cache.geometry.startOf_add_offsetOf p
  have hfront := b.cache.geometry.startOf_add_offsetOf b.window.frontier
  rw [hblock] at hfront
  omega

theorem Unbroken.store {b : Buffer} (hb : b.Unbroken) (bytes : Bytes) :
    (b.store bytes).Unbroken where
  toSound := hb.toSound.store bytes
  begun := by
    intro id hid
    rw [cache_store, Cache.geometry_ingest] at *
    -- A block is there for one of two reasons: it was before, or the chunk touches it.
    rcases (Cache.contains_ingest hb.sized hb.writable _ id).1 hid with hold | ⟨q, hlo, hhi, hq⟩
    · exact Cache.isSome_byte?_ingest hb.sized hb.writable _ (hb.begun id hold)
    · by_cases hfirst : b.window.frontier ≤ b.cache.geometry.startOf id
      · have hle : b.cache.geometry.startOf id ≤ q :=
          (b.cache.geometry.startOf_le_iff id q).2 (Nat.le_of_eq hq.symm)
        exact Cache.isSome_byte?_ingest_new hb.sized hb.writable _ hfirst (by omega)
      · refine Cache.isSome_byte?_ingest hb.sized hb.writable _ ?_
        refine hb.toSound.isSome_of_touched (by omega) hlo ?_
        rw [hq, b.cache.geometry.blockOf_startOf]
  passed := by
    intro p hstart hp hid
    rw [frontier_store] at hp
    rw [cache_store, Cache.geometry_ingest] at *
    by_cases hnew : b.window.frontier ≤ p
    · exact Cache.isSome_byte?_ingest_new hb.sized hb.writable _ hnew hp
    · refine Cache.isSome_byte?_ingest hb.sized hb.writable _ ?_
      -- Behind the old frontier nothing is written, but the block may be a new one.
      rcases (Cache.contains_ingest hb.sized hb.writable _ _).1 hid with hold | ⟨q, hlo, -, hq⟩
      · exact hb.passed p hstart (by omega) hold
      · exact hb.toSound.isSome_of_touched (by omega) hlo hq

/-- Eviction takes blocks whole. -/
theorem Unbroken.trim {b : Buffer} (hb : b.Unbroken) : b.trim.Unbroken := by
  -- Where the block is still there, so is every byte of it.
  have hkept : ∀ q, b.trim.cache.contains (b.cache.geometry.blockOf q) = true →
      b.cache.contains (b.cache.geometry.blockOf q) = true ∧
        b.trim.cache.byte? q = b.cache.byte? q := by
    intro q hq
    rw [cache_trim] at hq ⊢
    obtain ⟨block, hblock⟩ := Cache.contains_iff.1 hq
    have hbefore := Cache.block?_of_evict hblock
    refine ⟨Cache.contains_iff.2 ⟨block, hbefore⟩, ?_⟩
    rw [Cache.byte?, Cache.byte?, Cache.geometry_evict, hblock, hbefore]
  have hgeom : b.trim.cache.geometry = b.cache.geometry := by
    rw [cache_trim, Cache.geometry_evict]
  refine ⟨hb.toSound.trim, ?_, ?_⟩
  · intro id hid
    rw [hgeom]
    rw [← b.cache.geometry.blockOf_startOf id] at hid
    obtain ⟨hold, hbyte⟩ := hkept _ hid
    rw [hbyte]
    rw [b.cache.geometry.blockOf_startOf] at hold
    exact hb.begun id hold
  · intro p hstart hp hid
    rw [window_trim] at hstart hp
    rw [hgeom] at hid
    obtain ⟨hold, hbyte⟩ := hkept p hid
    rw [hbyte]
    exact hb.passed p hstart hp hold

/-- A transfer that has passed nothing has left no hole. -/
theorem Unbroken.fetchFrom {b : Buffer} (hb : b.Unbroken) {position : Nat}
    (h : b.cache.geometry.offsetOf position = 0) : (b.fetchFrom position).1.Unbroken where
  toSound := hb.toSound.fetchFrom h
  begun := hb.begun
  passed := fun _ hstart hp => absurd hstart (Nat.not_le.2 hp)

theorem Unbroken.change {b b' : Buffer} {call : Call} {effects : List Effect}
    (h : Change b call b' effects) (hb : b.Unbroken) : b'.Unbroken := by
  have hsound : b'.Sound := hb.toSound.change h
  cases h with
  | declined => exact hb
  | began => exact hb.fetchFrom (Nat.zero_mod _)
  | stayed => exact ⟨hsound, hb.begun, hb.passed⟩
  | moved position =>
    have hreader : (b.readerAt position).Unbroken :=
      ⟨⟨hb.sized, hb.aligned, hb.writable⟩, hb.begun, hb.passed⟩
    exact hreader.fetchFrom (b.cache.geometry.offsetOf_startOf _)
  | stopped => exact ⟨hsound, hb.begun, hb.passed⟩
  | headed fetch head =>
    refine ⟨hsound, ?_, ?_⟩
    · dsimp only
      rw [cache_accept]
      exact hb.begun
    · dsimp only
      rw [cache_accept, start_accept, frontier_accept]
      exact hb.passed
  | stored fetch bytes => exact (hb.store bytes).trim
  | ended => exact ⟨hsound, hb.begun, hb.passed⟩

theorem unbroken_withCache (url : Url) (settings : BufferSettings) (label : String)
    (geometry : Geometry) (budget : Nat) :
    (withCache url settings (.empty label geometry budget)).Unbroken where
  toSound := sound_withCache url settings (Cache.sized_empty label geometry budget)
  begun := by
    intro id hid
    obtain ⟨block, hblock⟩ := Cache.contains_iff.1 hid
    have hnone := Cache.block?_empty label geometry budget id
    exact absurd (hblock.symm.trans hnone) (Option.some_ne_none block)
  passed := fun _ _ hp => absurd hp (Nat.not_lt_zero _)

/-! ## Eviction along a run -/

/-- The cached blocks that giving memory back evicts. -/
def trims (b : Buffer) : List BlockId :=
  (b.cache.evict b.pinned).1.filter b.cache.contains

/-- The cached blocks that a call evicts. -/
def evicts (b : Buffer) : Call → List BlockId
  | .deliver fetch (.bytes bytes) =>
    if b.ignores fetch || !b.accepting then [] else (b.store bytes).trims
  | _ => []

/-- The block of a position was evicted in the course of a run, after the transfer
that is now the current one had passed the position. -/
def EvictedSince (b : Buffer) (calls : List Call) (position : Nat) : Prop :=
  ∃ earlier call later, calls = earlier ++ call :: later ∧
    (b.after (earlier ++ [call])).window.attempt = (b.after calls).window.attempt ∧
    position < (b.after (earlier ++ [call])).window.frontier ∧
    b.cache.geometry.blockOf position ∈ (b.after earlier).evicts call

/-- A cached block stays or is evicted. -/
theorem contains_trim {b : Buffer} {id : Nat} (h : b.cache.contains id = true) :
    b.trim.cache.contains id = true ∨ id ∈ b.trims := by
  by_cases hid : id ∈ (b.cache.evict b.pinned).1
  · exact .inr (List.mem_filter.2 ⟨hid, h⟩)
  · rw [cache_trim, Cache.contains, Cache.block?_evict, if_neg hid]
    exact .inl h

theorem evicts_of_heeded {b : Buffer} {fetch : FetchId} {bytes : Bytes}
    (heeded : b.ignores fetch = false) (accepting : b.accepting = true) :
    b.evicts (.deliver fetch (.bytes bytes)) = (b.store bytes).trims := by
  rw [evicts, heeded, accepting]
  rfl

/-- **A block is lost only to eviction.** -/
theorem contains_change {b b' : Buffer} {call : Call} {effects : List Effect}
    (h : Change b call b' effects) (hb : b.Sound) {id : Nat}
    (hid : b.cache.contains id = true) :
    b'.cache.contains id = true ∨ id ∈ b.evicts call := by
  cases h with
  | headed fetch head =>
    left
    dsimp only
    rwa [cache_accept]
  | stored fetch bytes heeded accepting =>
    rw [evicts_of_heeded heeded accepting]
    exact contains_trim ((Cache.contains_ingest hb.sized hb.writable _ id).2 (.inl hid))
  | _ => exact .inl hid

/-- What lies behind the frontier after a call was behind that of the same transfer
before it, or was stored by the call. -/
theorem passed_change {b b' : Buffer} {call : Call} {effects : List Effect}
    (h : Change b call b' effects) (hb : b.Sound) {p : Nat} (hstart : b'.window.start ≤ p)
    (hp : p < b'.window.frontier) :
    (b'.window.attempt = b.window.attempt ∧ b.window.start ≤ p ∧ p < b.window.frontier) ∨
      b'.cache.contains (b.cache.geometry.blockOf p) = true ∨
      b.cache.geometry.blockOf p ∈ b.evicts call := by
  cases h with
  | began => exact absurd hstart (Nat.not_le.2 hp)
  | moved => exact absurd hstart (Nat.not_le.2 hp)
  | headed fetch head =>
    dsimp only at *
    rw [start_accept] at hstart
    rw [frontier_accept] at hp
    exact .inl ⟨attempt_accept b head, hstart, hp⟩
  | stored fetch bytes heeded accepting =>
    rw [evicts_of_heeded heeded accepting]
    rw [window_trim] at hstart hp ⊢
    rw [frontier_store] at hp
    by_cases hold : p < b.window.frontier
    · exact .inl ⟨rfl, hstart, hold⟩
    · refine .inr (contains_trim ?_)
      exact (Cache.contains_ingest hb.sized hb.writable _ _).2 (.inr ⟨p, by omega, hp, rfl⟩)
  | _ => exact .inl ⟨rfl, hstart, hp⟩

theorem EvictedSince.concat {b : Buffer} {calls : List Call} {position : Nat}
    (h : EvictedSince b calls position) {call : Call}
    (hsame : (b.after (calls ++ [call])).window.attempt = (b.after calls).window.attempt) :
    EvictedSince b (calls ++ [call]) position := by
  obtain ⟨earlier, evicting, later, rfl, hattempt, hp, hid⟩ := h
  refine ⟨earlier, evicting, later ++ [call], by simp, ?_, hp, hid⟩
  rw [hattempt, hsame]

/-- **Behind the frontier a block is cached or was evicted since.** The induction is
on the run from its end: the last call either starts another transfer, which has
passed nothing yet, or stores the position, or leaves it behind the frontier. -/
theorem cached_or_evictedSince {b : Buffer} (hb : b.Sound) (hfresh : b.window.offset = 0)
    (calls : List Call) {p : Nat} (hstart : (b.after calls).window.start ≤ p)
    (hp : p < (b.after calls).window.frontier) :
    (b.after calls).cache.contains (b.cache.geometry.blockOf p) = true ∨
      EvictedSince b calls p := by
  induction calls using List.reverseRecOn with
  | nil =>
    rw [after_nil] at hstart hp
    rw [FetchWindow.frontier, hfresh] at hp
    omega
  | append_singleton calls call ih =>
    have hsound := hb.after calls
    have hchange := change_step (b.after calls) call
    rw [← after_concat] at hchange
    -- Whatever the last call evicts, the transfer had passed the position by then.
    have hlast : b.cache.geometry.blockOf p ∈ (b.after calls).evicts call →
        EvictedSince b (calls ++ [call]) p := fun hid =>
      ⟨calls, call, [], rfl, rfl, hp, hid⟩
    rw [← geometry_after b calls] at hlast ih ⊢
    rcases passed_change hchange hsound hstart hp with ⟨hsame, hold, holdp⟩ | hin | hout
    · rcases ih hold holdp with hin | hout
      · exact (contains_change hchange hsound hin).imp_right hlast
      · exact .inr (hout.concat hsame)
    · exact .inl hin
    · exact .inr (hlast hout)

/-! ## Blocks -/

/-- The window of the current transfer has no hole. -/
structure Contiguous (b : Buffer) : Prop where
  /-- The transfer began at the start of a block. -/
  aligned : b.cache.geometry.size ∣ b.window.start
  /-- A block that the frontier lies inside of is filled up to the frontier. -/
  reached : 0 < b.cache.geometry.offsetOf b.window.frontier →
    ∃ block, b.cache.block? (b.cache.geometry.blockOf b.window.frontier) = some block ∧
      b.cache.geometry.offsetOf b.window.frontier ≤ block.filled
  /-- The blocks between the start and the frontier's block are full. -/
  complete : ∀ id block, b.cache.block? id = some block →
    b.cache.geometry.blockOf b.window.start ≤ id →
    id < b.cache.geometry.blockOf b.window.frontier → block.isFull = true
  /-- No block is empty, and none holds more than a block. -/
  bounded : ∀ id block, b.cache.block? id = some block →
    0 < block.filled ∧ block.filled ≤ b.cache.geometry.size

/-- A block whose last byte is cached is full. -/
theorem isFull_of_last {c : Cache} (hs : c.Sized) {id : Nat} {block : Block}
    (hblock : c.block? id = some block)
    (hlast : (c.byte? (c.geometry.startOf id + (c.geometry.size - 1))).isSome = true) :
    block.isFull = true := by
  have hpos := c.geometry.size_pos
  obtain ⟨hcap, hfill⟩ := hs id block hblock
  rw [Cache.isSome_byte?_iff, c.geometry.blockOf_startOf_add id (by omega),
    c.geometry.offsetOf_startOf_add id (by omega), Cache.filledAt_of_block? hblock] at hlast
  rw [Block.isFull, hcap]
  simp only [beq_iff_eq]
  omega

theorem Unbroken.contiguous {b : Buffer} (hb : b.Unbroken) : b.Contiguous where
  aligned := Nat.dvd_of_mod_eq_zero hb.aligned
  reached := by
    intro hpos
    have hw := hb.writable
    unfold Cache.Writable at hw
    obtain ⟨block, hblock, hlt⟩ := Cache.block?_of_lt_filledAt (Nat.lt_of_lt_of_le hpos hw)
    rw [Cache.filledAt_of_block? hblock] at hw
    exact ⟨block, hblock, hw⟩
  complete := by
    intro id block hblock hlo hhi
    have hpos := b.cache.geometry.size_pos
    have hsplit := b.cache.geometry.startOf_add_offsetOf b.window.start
    have hstart : b.cache.geometry.startOf (b.cache.geometry.blockOf b.window.start) ≤
        b.cache.geometry.startOf id := Nat.mul_le_mul_right _ hlo
    have hfrontier : b.cache.geometry.startOf (id + 1) ≤ b.window.frontier :=
      (b.cache.geometry.startOf_le_iff _ _).2 hhi
    rw [b.cache.geometry.startOf_succ] at hfrontier
    -- The last byte of the block lies between the start and the frontier.
    have haligned := hb.aligned
    refine isFull_of_last hb.sized hblock (hb.passed _ (by omega) (by omega) ?_)
    rw [b.cache.geometry.blockOf_startOf_add id (by omega)]
    exact Cache.contains_iff.2 ⟨block, hblock⟩
  bounded := by
    intro id block hblock
    refine ⟨?_, (hb.sized id block hblock).2⟩
    have hfirst := hb.begun id (Cache.contains_iff.2 ⟨block, hblock⟩)
    rw [Cache.isSome_byte?_iff, b.cache.geometry.blockOf_startOf,
      Cache.filledAt_of_block? hblock] at hfirst
    omega

/-! ## The window of a run -/

/-- **The window of a transfer never has a hole**, on any run of a buffer that
began with an empty cache. So each round of storing a chunk finds its block
filled up to the place it writes to; and behind the frontier a byte can be
copied, unless its block was evicted after the transfer had passed it. -/
theorem window_contiguous (url : Url) (settings : BufferSettings) (label : String)
    (geometry : Geometry) (budget : Nat) (calls : List Call) :
    let fresh := withCache url settings (.empty label geometry budget)
    let b := fresh.after calls
    b.Contiguous ∧
      (∀ bytes n, let i := Cache.Ingestion.rounds n ⟨b.cache, b.window.frontier, bytes⟩
        i.cache.geometry.offsetOf i.position ≤
          i.cache.filledAt (i.cache.geometry.blockOf i.position)) ∧
      ∀ p, b.window.start ≤ p → p < b.window.frontier →
        (∀ x, (b.fill p [x]).1 = some 1) ∨ EvictedSince fresh calls p := by
  intro fresh b
  have hfresh : fresh.Unbroken := unbroken_withCache url settings label geometry budget
  have hb : b.Unbroken := after_induction (fun _ _ _ _ h hb => hb.change h) hfresh calls
  refine ⟨hb.contiguous, fun bytes n => ?_, fun p hstart hp => ?_⟩
  · exact (Cache.Ingestion.ready_rounds n ⟨hb.sized, hb.writable⟩).writable
  · refine (cached_or_evictedSince hfresh.toSound rfl calls hstart hp).imp_left fun hin x => ?_
    rw [fill_singleton_iff hb.sized]
    refine hb.passed p hstart hp ?_
    rw [geometry_after]
    exact hin

end ReadAhead.Buffer
