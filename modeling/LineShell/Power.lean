/-!
# Powers and sums

Powers of whole numbers, and the zero that sums of natural numbers begin with. They are those of the
core library wherever a module is used, whatever other notions of a power and of zero are at hand
there, so that all modules speak of the same ones.
-/

namespace LineShell

/-- The power of a natural number. -/
@[default_instance 10002]
instance (priority := high) powNat : Pow Nat Nat := @instPowNat Nat instNatPowNat

/-- The power of an integer. -/
@[default_instance 10001]
instance (priority := high) powInt : Pow Int Nat := @instPowNat Int Int.instNatPow

/-- The natural number zero. -/
instance (priority := high) zeroNat : Zero Nat := @Zero.ofOfNat0 Nat (instOfNatNat 0)

end LineShell
