/-!
# Parameters

A statement refers to its parameters by ordinals, which fit into 16 bits. A parameter keeps the
name it had in the template, and gets a type once a server has described it.
-/

namespace SqlTemplate

structure DataType where
  name : String
  /-- The number under which the server knows the type, if it reported one. -/
  oid : Option UInt32
  deriving DecidableEq

structure Parameter where
  name : String
  ordinal : UInt16
  type : Option DataType := none
  deriving DecidableEq

/-- The greatest number of parameters that a statement can bind. -/
def maxParameters : Nat := 65535

/-- Ordinals up to the greatest one fit. -/
theorem toNat_ofNat_of_le {n : Nat} (small : n ≤ maxParameters) : (UInt16.ofNat n).toNat = n :=
  UInt16.toNat_ofNat_of_lt (Nat.lt_succ_of_le small)

end SqlTemplate
