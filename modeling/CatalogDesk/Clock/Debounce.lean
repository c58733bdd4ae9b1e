/-! # Debouncing

    Of a burst of values only the last one is delivered, a fixed time after it came.
    The state is the value that waits with the time at which it is due. -/

namespace CatalogDesk

/-- A delay and the value that waits. -/
structure Debouncer (α : Type) where
  /-- Milliseconds between a value and its delivery. -/
  delay : Nat
  /-- The value that waits, and when it is due. -/
  waiting : Option (α × Nat) := none
  deriving DecidableEq, Inhabited, Repr

namespace Debouncer

variable {α : Type}

/-- Takes a value at a time; a value that still waits is dropped. -/
def call (d : Debouncer α) (value : α) (now : Nat) : Debouncer α :=
  { d with waiting := some (value, now + d.delay) }

/-- Drops the value that waits. -/
def cancel (d : Debouncer α) : Debouncer α :=
  { d with waiting := none }

def isPending (d : Debouncer α) : Bool :=
  d.waiting.isSome

/-- Delivers the value that is due by the given time. -/
def deliver (d : Debouncer α) (now : Nat) : Option α × Debouncer α :=
  match d.waiting with
  | some (value, due) => if due ≤ now then (some value, d.cancel) else (none, d)
  | none => (none, d)

end Debouncer

end CatalogDesk
