namespace DoubleRatchet

/-!
# Limits on what a session keeps

Every cache of a session is bounded, and the bounds are chosen by the host.
-/

/-- The bounds that establishment and transport respect. -/
structure Limits where
  /-- The largest gap between the index of a chain and an incoming counter. -/
  forwardJumps : Nat
  /-- The skipped message keys kept for one receiver chain. -/
  messageKeys : Nat
  /-- The receiver chains kept in one state. -/
  receiverChains : Nat
  /-- The archived states kept in one record. -/
  archivedStates : Nat
  deriving DecidableEq

namespace Limits

/-- The bounds where the host chooses none. -/
def standard : Limits :=
  ⟨2000, 2000, 5, 40⟩

/-- Tight bounds for small hosts. -/
def compact : Limits :=
  ⟨500, 500, 2, 5⟩

instance : Inhabited Limits := ⟨standard⟩

end Limits
end DoubleRatchet
