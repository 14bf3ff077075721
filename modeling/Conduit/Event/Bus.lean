/-!
# The event bus

A bus keeps the newest events for its readers. Its capacity is rounded up to a power of two. A
reader that falls further behind than the capacity learns how many events it has lost, and goes on
with the oldest one that is kept.
-/

namespace Conduit.Bus

def defaultCapacity : Nat := 1000

def mostKept : Nat := Nat.pow 2 55

def powerOfTwo (n : Nat) : Nat := if n ≤ 1 then 1 else Nat.pow 2 ((n - 1).log2 + 1)

/-- What a reader receives. -/
inductive Reception (α : Type) where
  | lagged (lost : Nat)
  | event (e : α)

def receive {α : Type} (capacity : Nat) (events : List α) : List (Reception α) :=
  let kept := powerOfTwo capacity
  if events.length ≤ kept then events.map .event
  else
    let lost := events.length - kept
    .lagged lost :: (events.drop lost).map .event

theorem le_powerOfTwo (n : Nat) : n ≤ powerOfTwo n := by
  unfold powerOfTwo
  split
  · assumption
  · next h =>
    have hlt : n - 1 < Nat.pow 2 ((n - 1).log2 + 1) := Nat.lt_log2_self
    omega

theorem receive_of_length_le {α : Type} {capacity : Nat} {events : List α}
    (h : events.length ≤ capacity) : receive capacity events = events.map .event := by
  unfold receive
  exact if_pos (Nat.le_trans h (le_powerOfTwo capacity))

example : powerOfTwo 0 = 1 ∧ powerOfTwo 5 = 8 ∧ powerOfTwo 8 = 8 := by decide

end Conduit.Bus
