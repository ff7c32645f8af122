namespace DoubleRatchet

/-!
# Addresses

A session belongs to one device of one party.  Trust in an identity belongs to
the party, so the name alone decides it, and the device number only tells the
sessions of one name apart.
-/

/-- A device of a party. -/
structure Address where
  name : String
  device : UInt32
  deriving DecidableEq, Inhabited

namespace Address

/-- By name in the order of code points, then by device. -/
instance : Ord Address :=
  ⟨compareLex (compareOn name) (compareOn device)⟩

instance : Std.TransOrd Address :=
  inferInstanceAs (Std.TransCmp (compareLex (compareOn name) (compareOn device)))

instance : Std.LawfulEqOrd Address where
  eq_of_compare {first second} same := by
    have both :
        compare first.name second.name = .eq ∧ compare first.device second.device = .eq :=
      Ordering.then_eq_eq.mp same
    cases first
    cases second
    simp only [Std.LawfulEqCmp.compare_eq_iff_eq] at both
    simp [both.1, both.2]

/-- The name and the device number, with a point between them. -/
def description (address : Address) : String :=
  s!"{address.name}.{address.device}"

end Address
end DoubleRatchet
