/-
The block ids that a buffer tells against the blocks that it has. Bytes are stored, found
and asked for by the geometry of the cache; `blockId` divides by the block shift of the
settings. Whoever looks a position's block up among the cached ones, or expects the next
transfer at the first position of its block, relies on the two being one geometry.

By the cache's own geometry both hold in every state. So they hold of `blockId` where the
shifts are equal, as they are in every buffer that was made from its settings alone. Where
they differ, neither does: the lesser of the two block sizes is a position that begins the
second block by one geometry and lies inside the first block by the other, so a seek to it
and the bytes up to it tell the two apart.
-/
import ReadAhead.Proofs.Buffer.Chunking
import ReadAhead.Proofs.Buffer.Restart
import Mathlib.Order.Bounds.Basic

set_option autoImplicit false

namespace ReadAhead

/-- **A block's start is the first of its positions.** -/
theorem Geometry.isLeast_startOf (g : Geometry) (position : Nat) :
    IsLeast {q | g.blockOf q = g.blockOf position} (g.startOf (g.blockOf position)) := by
  refine ⟨g.blockOf_startOf _, fun q hq => ?_⟩
  rw [Set.mem_ofPred_eq] at hq
  rw [← hq]
  exact g.startOf_blockOf_le q

/-- From the start of a position's block up to the position everything is in one block. -/
theorem Geometry.blockOf_eq_of_le (g : Geometry) {p q : Nat}
    (hstart : g.startOf (g.blockOf p) ≤ q) (hle : q ≤ p) : g.blockOf q = g.blockOf p :=
  Nat.le_antisymm (g.blockOf_mono hle) ((g.startOf_le_iff _ q).1 hstart)

/-- The positions below the size are those of the first block. -/
theorem Geometry.blockOf_of_lt (g : Geometry) {position : Nat} (h : position < g.size) :
    g.blockOf position = 0 :=
  Nat.div_eq_of_lt h

/-! ## Two geometries

The size of the smaller blocks begins the second one of them, and lies inside the first one
of the greater. -/

section

variable {g g' : Geometry}

theorem Geometry.blockOf_size_of_shift_lt (h : g.shift < g'.shift) :
    g.blockOf g.size = 1 ∧ g'.blockOf g.size = 0 := by
  have hsize : g.size < g'.size := by
    rw [size, size, Nat.one_shiftLeft, Nat.one_shiftLeft]
    exact Nat.pow_lt_pow_right Nat.one_lt_two h
  exact ⟨Nat.div_self g.size_pos, g'.blockOf_of_lt hsize⟩

/-- **Two geometries disagree on the size of the smaller blocks.** Its block is another one,
and the start of its block by the one is not the first position of its block by the other. -/
theorem Geometry.disagree_of_shift_ne (h : g.shift ≠ g'.shift) :
    g.blockOf (2 ^ min g.shift g'.shift) ≠ g'.blockOf (2 ^ min g.shift g'.shift) ∧
      ¬ IsLeast {q | g.blockOf q = g.blockOf (2 ^ min g.shift g'.shift)}
        (g'.startOf (g'.blockOf (2 ^ min g.shift g'.shift))) := by
  have hpower : ∀ g : Geometry, 2 ^ g.shift = g.size := fun g => (Nat.one_shiftLeft _).symm
  rcases Nat.lt_or_gt_of_ne h with hless | hmore
  · rw [Nat.min_eq_left (Nat.le_of_lt hless), hpower]
    obtain ⟨hone, hzero⟩ := blockOf_size_of_shift_lt hless
    refine ⟨by rw [hone, hzero]; exact Nat.one_ne_zero, ?_⟩
    -- The start is 0, which lies in the block before.
    rintro ⟨hin, -⟩
    rw [Set.mem_ofPred_eq, hone, hzero, startOf, Nat.zero_mul, g.blockOf_of_lt g.size_pos] at hin
    exact absurd hin Nat.zero_ne_one
  · rw [Nat.min_eq_right (Nat.le_of_lt hmore), hpower]
    obtain ⟨hone, hzero⟩ := blockOf_size_of_shift_lt hmore
    refine ⟨by rw [hone, hzero]; exact Nat.zero_ne_one, ?_⟩
    -- The start is the position itself, and 0 lies in its block, too.
    rintro ⟨-, hleast⟩
    have hfirst : g.blockOf 0 = g.blockOf g'.size := by rw [hzero, g.blockOf_of_lt g.size_pos]
    have hle : g'.startOf (g'.blockOf g'.size) ≤ 0 := hleast hfirst
    rw [hone, startOf, Nat.one_mul] at hle
    exact absurd g'.size_pos (Nat.not_lt.2 hle)

end

/-- **The bytes of a block up to a position**, stored in an empty cache, bring the position
and no other block. -/
theorem Cache.ingest_block (label : String) (g : Geometry) (budget p : Nat) {bytes : Bytes}
    (hlength : bytes.length = g.offsetOf p + 1) :
    let c := (empty label g budget).ingest (g.startOf (g.blockOf p)) bytes
    c.Sized ∧ (c.byte? p).isSome = true ∧ (∀ id ∈ c.ids, id = g.blockOf p) ∧ c.memory ≤ g.size := by
  intro c
  have hsized := sized_empty label g budget
  have hwritable : (empty label g budget).Writable (g.startOf (g.blockOf p)) :=
    writable_of_offsetOf_eq_zero (g.offsetOf_startOf _)
  have hend : g.startOf (g.blockOf p) + bytes.length = p + 1 := by
    rw [hlength, ← Nat.add_assoc, g.startOf_add_offsetOf]
  have hids : ∀ id, c.contains id = true → id ∈ [g.blockOf p] := by
    intro id hid
    rw [contains_ingest hsized hwritable, hend, contains, block?_empty] at hid
    obtain ⟨q, hstart, hle, rfl⟩ := hid.resolve_left Bool.false_ne_true
    exact List.mem_singleton.2 (g.blockOf_eq_of_le hstart (Nat.le_of_lt_succ hle))
  have hmemory := ((coherent_empty label g budget).ingest _ bytes).memory_le hids
  rw [List.length_singleton, Nat.one_mul, geometry_ingest] at hmemory
  refine ⟨hsized.ingest hwritable bytes, ?_, fun id hid => ?_, hmemory⟩
  · exact isSome_byte?_ingest_new hsized hwritable bytes (g.startOf_blockOf_le p) (by omega)
  · exact List.mem_singleton.1 (hids id ((mem_ids_iff c id).1 hid))

namespace Buffer

/-! ## Ids by two geometries -/

/-- The geometry that the settings name. -/
def named (b : Buffer) : Geometry := ⟨b.settings.blockShift⟩

theorem blockId_eq (b : Buffer) (position : Nat) :
    b.blockId position = b.named.blockOf position := by
  rw [blockId, Nat.shiftRight_eq_div_pow, Geometry.blockOf, Geometry.size, Nat.one_shiftLeft]
  rfl

/-- A buffer's ids are those of its blocks, as far as a position tells: if its byte can be
copied then its block is among the cached ones, and a transfer that is started for it
begins at the first position of its block. -/
structure Agrees (b : Buffer) (position : Nat) : Prop where
  cached : ∀ byte, (b.fill position [byte]).1 = some 1 → b.blockId position ∈ b.cache.ids
  first : ∀ request ∈ requests (b.seek position).2.2,
    IsLeast {q | b.blockId q = b.blockId position} request.offset

variable {b : Buffer} {p : Nat}

/-- **What can be copied lies in a cached block**, by the cache's geometry. -/
theorem blockOf_mem_ids_of_fill (hs : b.cache.Sized) {byte : UInt8}
    (h : (b.fill p [byte]).1 = some 1) : b.cache.geometry.blockOf p ∈ b.cache.ids := by
  obtain ⟨block, hblock, -⟩ := Cache.block?_of_isSome_byte? ((fill_singleton_iff hs byte).1 h)
  exact (Cache.mem_ids_iff _ _).2 (Cache.contains_iff.2 ⟨block, hblock⟩)

/-- **What a seek starts begins a block**, by the cache's geometry. -/
theorem offset_of_mem_requests_seek {request : Request} (h : request ∈ requests (b.seek p).2.2) :
    request.offset = b.cache.geometry.startOf (b.cache.geometry.blockOf p) := by
  cases hstopped : b.stopped with
  | true =>
    rw [seek, if_pos hstopped] at h
    exact absurd h List.not_mem_nil
  | false =>
    rw [seek_of_live hstopped] at h
    split at h
    · rw [requests_fetchFrom] at h
      rw [List.mem_singleton.1 h]
      rfl
    · exact absurd h List.not_mem_nil

/-- With one geometry the ids agree. -/
theorem agrees_of_named_eq (hs : b.cache.Sized) (h : b.named = b.cache.geometry) (p : Nat) :
    b.Agrees p where
  cached byte hfill := by
    rw [blockId_eq, h]
    exact blockOf_mem_ids_of_fill hs hfill
  first request hrequest := by
    simp only [blockId_eq]
    rw [h, offset_of_mem_requests_seek hrequest]
    exact b.cache.geometry.isLeast_startOf p

/-- The ids agree on every run if the settings name the cache's shift. -/
theorem agrees_after (url : Url) (settings : BufferSettings) {cache : Cache}
    (sized : cache.Sized) (h : settings.blockShift = cache.geometry.shift) (calls : List Call)
    (p : Nat) : ((withCache url settings cache).after calls).Agrees p := by
  refine agrees_of_named_eq ((sound_withCache url settings sized).after calls).sized ?_ p
  rw [named, settings_after, geometry_after]
  exact congrArg Geometry.mk h

/-- They agree on every run of a buffer that was made from its settings alone. -/
theorem agrees_after_new (url : Url) (settings : BufferSettings) {b : Buffer}
    (hnew : new url settings = .ok b) (calls : List Call) (p : Nat) : (b.after calls).Agrees p := by
  rw [new] at hnew
  cases hcache : Cache.new url.text settings.blockShift settings.maxCacheBytes with
  | error failure =>
    rw [hcache] at hnew
    exact absurd hnew nofun
  | ok made =>
    rw [hcache] at hnew
    have hempty := Cache.eq_empty_of_new hcache
    rw [← Except.ok.inj hnew, hempty.1]
    exact agrees_after url settings (Cache.sized_empty _ _ _) rfl calls p

/-! ## Telling two geometries apart -/

/-- Where nothing was ever fetched, a seek starts a transfer. -/
theorem requests_seek_withCache (url : Url) (settings : BufferSettings) (cache : Cache) (p : Nat) :
    requests ((withCache url settings cache).seek p).2.2 =
      [.rangeFrom 1 url (cache.geometry.startOf (cache.geometry.blockOf p))] := by
  have hneeds : (withCache url settings cache).needsRestart p = true := rfl
  rw [seek_of_live rfl, hneeds, if_pos rfl, requests_fetchFrom]
  rfl

/-- A seek to a position, and an answer with the bytes of its block up to it. -/
def bring (g : Geometry) (p : Nat) : List Call :=
  [.seek p, .deliver 1 (.head ⟨206, none, none⟩),
    .deliver 1 (.bytes (List.replicate (g.offsetOf p + 1) 0))]

/-- **Of a new cache with room for a block**, the position can be copied then, and its block
is the only one that is cached. -/
theorem fill_bring (url : Url) (settings : BufferSettings) (label : String) (g : Geometry)
    {budget : Nat} (room : g.size ≤ budget) (p : Nat) :
    let b := (withCache url settings (.empty label g budget)).after (bring g p)
    (b.fill p [0]).1 = some 1 ∧ ∀ id ∈ b.cache.ids, id = g.blockOf p := by
  intro b
  let bytes : Bytes := List.replicate (g.offsetOf p + 1) 0
  let headed := (withCache url settings (.empty label g budget)).after
    [.seek p, .deliver 1 (.head ⟨206, none, none⟩)]
  have hstored : (headed.store bytes).cache =
      (Cache.empty label g budget).ingest (g.startOf (g.blockOf p)) bytes := by
    rw [cache_store, body_eq]
    rfl
  obtain ⟨hsized, hcached, hids, hmemory⟩ :=
    Cache.ingest_block label g budget p (List.length_replicate : bytes.length = g.offsetOf p + 1)
  rw [← hstored] at hsized hcached hids hmemory
  -- One block is within the budget, so nothing is given back.
  have hkept : b = headed.store bytes := by
    rw [show b = (headed.store bytes).trim from step_bytes rfl rfl bytes]
    apply trim_of_fits
    rw [Cache.overBudget_eq_false_iff]
    refine Nat.le_trans hmemory (Nat.le_trans room (Nat.le_of_eq ?_))
    rw [hstored, Cache.budget_ingest]
    rfl
  rw [hkept]
  exact ⟨(fill_singleton_iff hsized 0).2 hcached, hids⟩

/-- **Where the shifts differ, neither holds of the ids that are told.** -/
theorem disagrees_of_shift_ne (url : Url) (settings : BufferSettings) (cache : Cache)
    (h : settings.blockShift ≠ cache.geometry.shift) :
    ∃ p, (∃ request ∈ requests ((withCache url settings cache).seek p).2.2,
        ¬ IsLeast {q | (withCache url settings cache).blockId q =
          (withCache url settings cache).blockId p} request.offset) ∧
      ∀ label budget, Cache.new label cache.geometry.shift budget = .ok cache →
        ∃ calls byte, (((withCache url settings cache).after calls).fill p [byte]).1 = some 1 ∧
          ((withCache url settings cache).after calls).blockId p ∉
            ((withCache url settings cache).after calls).cache.ids := by
  let named : Geometry := ⟨settings.blockShift⟩
  obtain ⟨hblock, hleast⟩ := Geometry.disagree_of_shift_ne
    (show named.shift ≠ cache.geometry.shift from h)
  generalize 2 ^ min named.shift cache.geometry.shift = p at hblock hleast
  refine ⟨p, ⟨_, requests_seek_withCache url settings cache p ▸ List.mem_singleton_self _, ?_⟩, ?_⟩
  · simp only [blockId_eq]
    exact hleast
  · intro label budget hnew
    obtain ⟨hempty, room⟩ := Cache.eq_empty_of_new hnew
    have hbrought := fill_bring url settings label cache.geometry room p
    rw [← hempty] at hbrought
    obtain ⟨hfill, hids⟩ := hbrought
    refine ⟨bring cache.geometry p, 0, hfill, fun hin => hblock ?_⟩
    rw [← hids _ hin, blockId_eq, Buffer.named, settings_after]
    rfl

/-! ## Ids on a run -/

/-- **When the ids of a buffer are those of its blocks.** Whatever the two constructors
make and whatever happened since: by the cache's geometry a position that can be copied
lies in a cached block, and a transfer that a seek starts begins at the first position of
its block. The ids that the buffer tells have both properties in all states if the settings
name the cache's shift, which is so in a buffer made from its settings alone. If they name
another, a first seek starts a transfer that does not begin the block that the buffer tells;
and if the cache is new, the position can be copied after a few calls, and the block that
the buffer tells is not cached. -/
theorem block_ids_agree (url : Url) (settings : BufferSettings) {cache : Cache}
    (sized : cache.Sized) :
    let fresh := withCache url settings cache
    let g := cache.geometry
    (∀ calls p byte, ((fresh.after calls).fill p [byte]).1 = some 1 →
        g.blockOf p ∈ (fresh.after calls).cache.ids) ∧
      (∀ calls p, ∀ request ∈ requests ((fresh.after calls).seek p).2.2,
        IsLeast {q | g.blockOf q = g.blockOf p} request.offset) ∧
      (settings.blockShift = g.shift → ∀ calls p, (fresh.after calls).Agrees p) ∧
      (∀ b, new url settings = .ok b → ∀ calls p, (b.after calls).Agrees p) ∧
      (settings.blockShift ≠ g.shift → ∃ p,
        (∃ request ∈ requests (fresh.seek p).2.2,
          ¬ IsLeast {q | fresh.blockId q = fresh.blockId p} request.offset) ∧
        ∀ label budget, Cache.new label g.shift budget = .ok cache → ∃ calls byte,
          ((fresh.after calls).fill p [byte]).1 = some 1 ∧
            (fresh.after calls).blockId p ∉ (fresh.after calls).cache.ids) := by
  intro fresh g
  refine ⟨fun calls p byte hfill => ?_, fun calls p request hrequest => ?_,
    agrees_after url settings sized, fun b hnew => agrees_after_new url settings hnew,
    disagrees_of_shift_ne url settings cache⟩
  · rw [show g = (fresh.after calls).cache.geometry from (geometry_after fresh calls).symm]
    exact blockOf_mem_ids_of_fill ((sound_withCache url settings sized).after calls).sized hfill
  · rw [offset_of_mem_requests_seek hrequest, geometry_after]
    exact g.isLeast_startOf p

/-- Settings with blocks of eight bytes around a cache with blocks of four. The byte at 4 is
in the cache's block 1, where the transfer for it began, and the buffer tells block 0. -/
theorem block_ids_agree_smaller_blocks :
    let fresh := withCache ⟨[], [], [], none, none, .rigid [], none, none⟩ ⟨3, 8, 8, 0⟩
      (.empty "own" ⟨2⟩ 8)
    let b := fresh.after [.seek 4, .deliver 1 (.head ⟨206, none, none⟩), .deliver 1 (.bytes [7])]
    (b.fill 4 [0]).1 = some 1 ∧ 1 ∈ b.cache.ids ∧ b.blockId 4 = 0 ∧ b.blockId 4 ∉ b.cache.ids ∧
      ∃ p, ∃ request ∈ requests (fresh.seek p).2.2,
        ¬ IsLeast {q | fresh.blockId q = fresh.blockId p} request.offset := by
  intro fresh b
  obtain ⟨hcached, -, -, -, hdiffer⟩ := block_ids_agree
    ⟨[], [], [], none, none, .rigid [], none, none⟩ ⟨3, 8, 8, 0⟩ (Cache.sized_empty "own" ⟨2⟩ 8)
  have hfill : (b.fill 4 [0]).1 = some 1 := by decide
  obtain ⟨p, hrequest, -⟩ := hdiffer (by decide)
  exact ⟨hfill, hcached _ 4 0 hfill, by decide, by decide, p, hrequest⟩

end Buffer

end ReadAhead
