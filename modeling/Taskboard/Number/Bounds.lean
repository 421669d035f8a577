/-
The numbers that fit 64 bits, with and without a sign.
-/

namespace Taskboard

/-- The largest number of 64 bits without a sign. -/
def unsignedMax : Nat := 18446744073709551615

/-- The least number of 64 bits with a sign. -/
def signedMin : Int := -9223372036854775808

/-- The largest number of 64 bits with a sign. -/
def signedMax : Int := 9223372036854775807

end Taskboard
