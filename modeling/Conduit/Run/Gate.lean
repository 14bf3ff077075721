/-!
# Join gates

A gate stands before a node and counts the arrivals from the nodes before it. The last arrival of a
round opens the gate for the node, or passes on that all arrivals were dead. The first arrival after
that begins a new round. A gate with nothing before it has rounds of one arrival.
-/

namespace Conduit

/-- What an arrival leads to. -/
inductive Arrival where
  | waiting
  | fire
  | skip
  deriving DecidableEq

structure Gate where
  /-- How many nodes stand before the node. -/
  inbound : Nat
  /-- How many arrivals the round still waits for. -/
  remaining : Nat
  /-- How many arrivals of the round were live. -/
  live : Nat
  deriving DecidableEq

namespace Gate

def new (inbound : Nat) : Gate := ⟨inbound, inbound, 0⟩

/-- The gate at the start of the next round, if the last one is over. -/
def rearmed (g : Gate) : Gate := if g.remaining = 0 then ⟨g.inbound, max g.inbound 1, 0⟩ else g

def arrive (g : Gate) (live : Bool) : Gate × Arrival :=
  let g := g.rearmed
  let n := if live then g.live + 1 else g.live
  (⟨g.inbound, g.remaining - 1, n⟩,
    if 1 < g.remaining then .waiting else if 0 < n then .fire else .skip)

theorem rearmed_remaining_pos (g : Gate) : 0 < g.rearmed.remaining := by
  unfold rearmed
  split
  · exact Nat.lt_of_lt_of_le Nat.zero_lt_one (Nat.le_max_right _ _)
  · next h => exact Nat.pos_of_ne_zero h

@[simp] theorem arrive_inbound (g : Gate) (live : Bool) :
    (g.arrive live).1.inbound = g.inbound := by
  simp only [arrive, rearmed]
  split <;> rfl

end Gate

end Conduit
