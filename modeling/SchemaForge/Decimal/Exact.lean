import SchemaForge.Decimal.Shortest

/-! Exact values of binary64 numbers, and what is computed from them without rounding twice. -/

namespace SchemaForge.Decimal

def isNegative (x : Float) : Bool := x.toBits >>> 63 == 1

def exact (x : Float) : Int × Int :=
  let m := Magnitude.ofBits x.toBits
  (if isNegative x then -(m.mantissa : Int) else m.mantissa, m.exponent)

def whole? (x : Float) : Option Int :=
  if x.isFinite then
    let (m, e) := exact x
    if 0 ≤ e then some (m * twoTo e.toNat)
    else if m % twoTo (-e).toNat = 0 then some (m / twoTo (-e).toNat) else none
  else none

/-- The greatest whole number that is not above a finite binary64 number. -/
def floor (x : Float) : Int :=
  let (m, e) := exact x
  if 0 ≤ e then m * twoTo e.toNat else m / twoTo (-e).toNat

/-- The whole number nearest to a binary64 number that is finite and not negative, of two equally
near ones the greater one. -/
def nearest (x : Float) : Nat :=
  let (m, e) := exact x
  if 0 ≤ e then (m * twoTo e.toNat).toNat
  else ((2 * m + twoTo (-e).toNat) / (2 * twoTo (-e).toNat)).toNat

/-- The binary64 number nearest to a whole number, of two equally near ones the even one. -/
def ofWhole (z : Int) : Float := .ofModel (.ofInt z)

def remainder (x y : Float) : Float :=
  let (m, e) := exact x.abs
  let (n, f) := exact y.abs
  let low := min e f
  let a := m * twoTo (e - low).toNat
  let b := n * twoTo (f - low).toNat
  let r := (Float.ofInt (a % b)).scaleB low
  if isNegative x then -r else r

def truncMod (x y : Float) : Float :=
  if x.isNaN || y.isNaN || x.isInf || y == 0 then 0.0 / 0.0
  else if y.isInf then x
  else remainder x y

end SchemaForge.Decimal
