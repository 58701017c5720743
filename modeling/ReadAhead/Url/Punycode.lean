/-
Punycode, the way a host name outside ASCII is written in ASCII: the ASCII
characters in front, then the others as a sequence of differences, in ascending
order of code point. Differences are numbers of variable length in base 36
whose digit thresholds follow a bias that adapts to the differences seen.

Every loop has a bound that its input gives: a number has no more digits than
bits, and a code point is inserted once.
-/

set_option autoImplicit false

namespace ReadAhead.Url.Punycode

/-! ## Digits and the bias -/

/-- Base-36 digit: letters first, then figures. -/
def digitChar (d : Nat) : Char :=
  if d < 26 then Char.ofNat ('a'.toNat + d) else Char.ofNat ('0'.toNat + d - 26)

/-- The value of a base-36 digit of either case. -/
def digitValue? (c : Char) : Option Nat :=
  if 'a' ≤ c ∧ c ≤ 'z' then some (c.toNat - 'a'.toNat)
  else if 'A' ≤ c ∧ c ≤ 'Z' then some (c.toNat - 'A'.toNat)
  else if '0' ≤ c ∧ c ≤ '9' then some (c.toNat - '0'.toNat + 26)
  else none

/-- A digit below the threshold ends its number. -/
def threshold (k bias : Nat) : Nat :=
  if k ≤ bias then 1 else if bias + 26 ≤ k then 26 else k - bias

/-- Scales a difference down, counting the digits saved. -/
def scale : Nat → Nat → Nat → Nat × Nat
  | 0, delta, k => (delta, k)
  | fuel + 1, delta, k => if 455 < delta then scale fuel (delta / 35) (k + 36) else (delta, k)

/-- The bias after a difference, with `count` code points placed. -/
def adapt (delta count : Nat) (first : Bool) : Nat :=
  let delta := if first then delta / 700 else delta / 2
  let (delta, k) := scale delta (delta + delta / count) 0
  k + 36 * delta / (delta + 38)

/-! ## Writing -/

/-- A number from its digit at weight position `k` on. -/
def encodeNumber (bias : Nat) : Nat → Nat → Nat → List Char
  | 0, _, _ => []
  | fuel + 1, k, q =>
    let t := threshold k bias
    if q < t then [digitChar q]
    else digitChar (t + (q - t) % (36 - t)) ::
      encodeNumber bias fuel (k + 36) ((q - t) / (36 - t))

/-- What is written so far, and the state of the differences. -/
structure Progress where
  out : List Char
  delta : Nat
  bias : Nat
  placed : Nat

/-- Walks past one character while the code point `m` is being placed. -/
def visit (basics m : Nat) (p : Progress) (c : Char) : Progress :=
  if c.toNat < m then { p with delta := p.delta + 1 }
  else if c.toNat = m then
    { out := p.out ++ encodeNumber p.bias (p.delta + 1) 36 p.delta
      delta := 0
      bias := adapt p.delta (p.placed + 1) (p.placed == basics)
      placed := p.placed + 1 }
  else p

/-- Places the code points `ms`, which ascend, the first of them `n` or more. -/
def placeAll (label : List Char) (basics : Nat) : List Nat → Nat → Progress → Progress
  | [], _, p => p
  | m :: rest, n, p =>
    let p := { p with delta := p.delta + (m - n) * (p.placed + 1) }
    let p := label.foldl (visit basics m) p
    placeAll label basics rest (m + 1) { p with delta := p.delta + 1 }

/-- Inserts a number into an ascending list that has it at most once. -/
def insertOnce (x : Nat) : List Nat → List Nat
  | [] => [x]
  | y :: ys => if x < y then x :: y :: ys else if x = y then y :: ys else y :: insertOnce x ys

/-- The label in ASCII, without the mark that says so. -/
def encode (label : List Char) : List Char :=
  let basic := label.filter (·.toNat < 128)
  let others := (label.filter (128 ≤ ·.toNat)).map Char.toNat
  let start : Progress := { out := [], delta := 0, bias := 72, placed := basic.length }
  let tail := (placeAll label basic.length (others.foldr insertOnce []) 128 start).out
  basic ++ (if basic.isEmpty then [] else ['-']) ++ tail

/-! ## Reading -/

/-- What numbers and weights stay below. -/
def numberLimit : Nat := UInt32.size

/-- A number from its digit at weight position `k` on, added to `i`. -/
def decodeNumber (bias : Nat) : List Char → Nat → Nat → Nat → Option (Nat × List Char)
  | [], _, _, _ => none
  | c :: rest, k, weight, i => do
    let d ← digitValue? c
    let t := threshold k bias
    let i := i + d * weight
    guard (i < numberLimit)
    if d < t then some (i, rest)
    else
      let weight := weight * (36 - t)
      guard (weight < numberLimit)
      decodeNumber bias rest (k + 36) weight i

/-- Inserts code points for as long as there are numbers. -/
def insertAll : Nat → Nat → Nat → Nat → List Char → List Char → Option (List Char)
  | _, _, _, _, out, [] => some out
  | 0, _, _, _, _, _ :: _ => none
  | fuel + 1, bias, n, i, out, c :: rest => do
    let (i', rest) ← decodeNumber bias (c :: rest) 36 1 i
    let count := out.length + 1
    let n := n + i' / count
    let place := i' % count
    if n.isValidChar then
      insertAll fuel (adapt (i' - i) count (i == 0)) n (place + 1)
        (out.insertIdx place (Char.ofNat n)) rest
    else none

/-- The label that an ASCII form stands for. The last dash divides it, and has
something in front. -/
def decode? (ascii : List Char) : Option (List Char) :=
  let tail := (ascii.reverse.takeWhile (· ≠ '-')).reverse
  let front := ascii.take (ascii.length - tail.length)
  if front = ['-'] then none else insertAll tail.length 72 128 0 front.dropLast tail

end ReadAhead.Url.Punycode
