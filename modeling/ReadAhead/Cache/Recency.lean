/-
Recency of use. A tracker keeps its keys in a chain from the least to the most
recently touched one; each key carries links to its two neighbours and the size
it is charged with, and the tracker knows the two ends of the chain and the sum
of the sizes.

Touching a key takes it out of the chain and puts it back at the newest end, so
three links change and the rest of the chain stays. `order` follows the links
from the oldest key, `reversed` from the newest; both stop after as many steps
as there are keys, which is all a chain without loops can need.
-/
import Std.Data.ExtTreeMap

set_option autoImplicit false

namespace ReadAhead

/-- A key's place in the chain. -/
structure Recency.Node (κ : Type) where
  size : Nat
  newer : Option κ
  older : Option κ
  deriving DecidableEq, Repr

/-- A chain of keys with its two ends and the sum of their sizes. -/
structure Recency (κ : Type) [Ord κ] where
  nodes : Std.ExtTreeMap κ (Recency.Node κ)
  newest : Option κ
  oldest : Option κ
  memory : Nat

namespace Recency

variable {κ : Type} [Ord κ] [Std.TransOrd κ]

instance [Repr κ] : Repr (Recency κ) where
  reprPrec r := reprPrec (r.nodes, r.newest, r.oldest, r.memory)

instance [Std.LawfulEqOrd κ] [DecidableEq κ] : DecidableEq (Recency κ) := fun r s =>
  decidable_of_iff
    (r.nodes = s.nodes ∧ r.newest = s.newest ∧ r.oldest = s.oldest ∧ r.memory = s.memory)
    (by cases r; cases s; simp)

/-- No keys. -/
def empty : Recency κ := { nodes := ∅, newest := none, oldest := none, memory := 0 }

/-! ## Nodes -/

/-- The node of a key. -/
def node? (r : Recency κ) (key : κ) : Option (Node κ) := r.nodes[key]?

def contains (r : Recency κ) (key : κ) : Bool := (r.node? key).isSome

/-- Number of keys. -/
def count (r : Recency κ) : Nat := r.nodes.size

def isEmpty (r : Recency κ) : Bool := r.nodes.isEmpty

/-- Changes the node of one key, if it has one. -/
def alter (r : Recency κ) (key : κ) (change : Node κ → Node κ) : Recency κ :=
  { r with nodes := r.nodes.modify key change }

/-! ## The chain -/

/-- Closes the gap that a node leaves: its newer neighbour, or else the newest
end, now points at its older neighbour, and the other way round. -/
def bridge (r : Recency κ) (node : Node κ) : Recency κ :=
  let r := match node.newer with
    | some key => r.alter key fun n => { n with older := node.older }
    | none => { r with newest := node.older }
  match node.older with
  | some key => r.alter key fun n => { n with newer := node.newer }
  | none => { r with oldest := node.newer }

/-- Takes a key out of the chain. The memory is still charged for it. -/
def unlink (r : Recency κ) (key : κ) : Option (Node κ × Recency κ) :=
  (r.node? key).map fun node => (node, { r with nodes := r.nodes.erase key }.bridge node)

/-- Puts a key that is not in the chain at its newest end. -/
def pushNewest (r : Recency κ) (key : κ) (size : Nat) : Recency κ :=
  let node : Node κ := { size, newer := none, older := r.newest }
  let linked := match r.newest with
    | some top => r.alter top fun n => { n with newer := some key }
    | none => { r with oldest := some key }
  { linked with
    nodes := linked.nodes.insert key node
    newest := some key
    memory := linked.memory + size }

/-! ## Operations -/

/-- Makes a key the most recent one, charged with `size` from now on. -/
def touch (r : Recency κ) (key : κ) (size : Nat) : Recency κ :=
  match r.unlink key with
  | some (node, rest) => { rest with memory := rest.memory - node.size }.pushNewest key size
  | none => r.pushNewest key size

/-- Forgets a key and says what it was charged with. -/
def remove (r : Recency κ) (key : κ) : Option Nat × Recency κ :=
  match r.unlink key with
  | some (node, rest) => (some node.size, { rest with memory := rest.memory - node.size })
  | none => (none, r)

/-- Forgets every key. -/
def clear (_ : Recency κ) : Recency κ := empty

/-! ## Views -/

/-- Adds the keys met by following a link of each node, at most `steps` of them,
to the keys met before; the last one met is in front. -/
def follow (r : Recency κ) (link : Node κ → Option κ) : Nat → Option κ → List κ → List κ
  | 0, _, met => met
  | _ + 1, none, met => met
  | steps + 1, some key, met => follow r link steps ((r.node? key).bind link) (key :: met)

/-- The keys from the least to the most recently touched one. -/
def order (r : Recency κ) : List κ := (r.follow Node.newer r.count r.oldest []).reverse

/-- The keys from the most to the least recently touched one. -/
def reversed (r : Recency κ) : List κ := (r.follow Node.older r.count r.newest []).reverse

/-! ## Runs -/

/-- Everything that changes a tracker. -/
inductive Use (κ : Type) where
  | touch (key : κ) (size : Nat)
  | remove (key : κ)
  | clear
  deriving DecidableEq, Repr

/-- One change. -/
def use (r : Recency κ) : Use κ → Recency κ
  | .touch key size => r.touch key size
  | .remove key => (r.remove key).2
  | .clear => r.clear

/-- What changes one after another make of a tracker. -/
def after (r : Recency κ) (uses : List (Use κ)) : Recency κ := uses.foldl use r

end Recency

end ReadAhead
