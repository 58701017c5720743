/-
Settings of a media source, their defaults, and what makes them usable. The
limits are those of the fields: a shift is a 32-bit number, everything else a
64-bit one, and the readers of settings enforce that.

`fault?` names the first thing that is wrong, in a fixed order: the block
shift, then the cache that must hold a block of that size, then the delay.
-/
import ReadAhead.Failure

set_option autoImplicit false

namespace ReadAhead

/-- Block geometry and memory limits of a read-ahead buffer. -/
structure BufferSettings where
  /-- Blocks hold `2 ^ blockShift` bytes. -/
  blockShift : Nat
  /-- How far past the frontier a seek may land before the fetch is given up. -/
  maxLookahead : Nat
  /-- Memory budget of the cache. -/
  maxCacheBytes : Nat
  /-- Blocks behind the reader's that eviction leaves alone. -/
  pinnedBlocks : Nat
  deriving DecidableEq, Repr

/-- Timing of a data source. -/
structure SourceSettings where
  /-- Delay before a read that found nothing looks again. -/
  retryDelayMs : Nat
  deriving DecidableEq, Repr

/-- Settings of the HTTP client. -/
structure HttpSettings where
  connectTimeoutSecs : Nat
  /-- Deadline of a whole transfer, if there is one. -/
  requestTimeoutSecs : Option Nat
  userAgent : Option String
  useSystemProxy : Bool
  deriving DecidableEq, Repr

/-- All settings of a source. -/
structure Settings where
  buffer : BufferSettings
  source : SourceSettings
  http : HttpSettings
  deriving DecidableEq, Repr

/-! ## Presets -/

/-- Blocks of 64 KiB, a lookahead of 512 KiB, a cache of 32 MiB. -/
def BufferSettings.standard : BufferSettings :=
  { blockShift := 16, maxLookahead := 512 * 1024, maxCacheBytes := 32 * 1024 * 1024
    pinnedBlocks := 8 }

def SourceSettings.standard : SourceSettings := { retryDelayMs := 1000 }

def HttpSettings.standard : HttpSettings :=
  { connectTimeoutSecs := 30, requestTimeoutSecs := none, userAgent := none
    useSystemProxy := true }

def Settings.standard : Settings := { buffer := .standard, source := .standard, http := .standard }

/-- Small blocks and a tight cache, for constrained devices. -/
def Settings.lowMemory : Settings :=
  { Settings.standard with
    buffer :=
      { blockShift := 14, maxLookahead := 256 * 1024, maxCacheBytes := 4 * 1024 * 1024
        pinnedBlocks := 4 } }

/-! ## Use and checks -/

/-- Bytes in a block; shifts beyond 63 count as 63. -/
def BufferSettings.blockSize (s : BufferSettings) : Nat := 1 <<< min s.blockShift 63

/-- The first thing that makes settings unusable. -/
def Settings.fault? (s : Settings) : Option ConfigFault :=
  if s.buffer.blockShift = 0 ∨ 30 < s.buffer.blockShift then
    some (.blockShift s.buffer.blockShift)
  else if s.buffer.maxCacheBytes < s.buffer.blockSize then
    some (.cacheTooSmall s.buffer.maxCacheBytes s.buffer.blockSize)
  else if s.source.retryDelayMs = 0 then some .noRetryDelay
  else none

/-- The settings themselves, if they are usable. -/
def Settings.validate (s : Settings) : Except Failure Settings :=
  match s.fault? with
  | some fault => .error (.config fault)
  | none => .ok s

/-- **Settings are usable** if the shift is within `1..=30`, the cache holds a block, and
there is a delay. -/
theorem Settings.fault?_eq_none_iff {s : Settings} :
    s.fault? = none ↔ s.buffer.blockShift ≠ 0 ∧ s.buffer.blockShift ≤ 30 ∧
      s.buffer.blockSize ≤ s.buffer.maxCacheBytes ∧ s.source.retryDelayMs ≠ 0 := by
  rw [fault?]
  split
  · next h => exact iff_of_false nofun (by omega)
  split
  · next h => exact iff_of_false nofun (by omega)
  split
  · next h => exact iff_of_false nofun (by omega)
  · next hshift hbudget hdelay => exact iff_of_true rfl (by omega)

/-- Usable settings are left as they are. -/
theorem Settings.validate_eq_ok_iff {s t : Settings} :
    s.validate = .ok t ↔ t = s ∧ s.fault? = none := by
  rw [validate]
  cases s.fault? with
  | none => simp [eq_comm]
  | some fault => simp

end ReadAhead
