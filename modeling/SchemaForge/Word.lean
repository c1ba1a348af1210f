/-! Powers of two and of ten, and the ends of the ranges of whole numbers of 32 and 64 bits. -/

namespace SchemaForge

def twoTo (n : Nat) : Nat := Nat.pow 2 n

def tenTo (n : Nat) : Nat := Nat.pow 10 n

namespace Word

def signedEnd32 : Nat := 2147483648

def unsignedEnd32 : Nat := 4294967296

def signedEnd : Nat := 9223372036854775808

def unsignedEnd : Nat := 18446744073709551616

def isSigned (z : Int) : Bool := decide (-(signedEnd : Int) ≤ z) && decide (z < signedEnd)

end Word

end SchemaForge
