/-
When heartbeats are due.
-/

namespace CapabilityMesh

namespace Ticker

/-- How late a tick may come and still count as punctual, in milliseconds. -/
def tolerance : Nat := 5

/-- When the next tick is due after one that was due at `due` and came at `now`.
Ticks that were missed are left out; those that follow keep to the period. -/
def next (period due now : Nat) : Nat :=
  if due + tolerance < now then now + period - (now - due) % period
  else due + period

end Ticker

end CapabilityMesh
