import SchemaForge.Decimal.Shortest

/-! Numbers to a given count of digits, correctly rounded, a tie to the even digit. -/

namespace SchemaForge.Decimal

def padZeros (width : Nat) (cs : List Char) : List Char :=
  List.replicate (width - cs.length) '0' ++ cs

def digitChars (n : Nat) : List Char := (toString n).toList

def pointed (places : Nat) (n : Nat) : List Char :=
  let ds := padZeros (places + 1) (digitChars n)
  if places = 0 then ds
  else ds.take (ds.length - places) ++ '.' :: ds.drop (ds.length - places)

def Magnitude.fixed (x : Magnitude) (places : Nat) : List Char :=
  pointed places (roundScaled x.mantissa x.exponent (-(places : Int)))

def Magnitude.leading (x : Magnitude) (n : Nat) : Nat × Int :=
  if x.mantissa = 0 then (0, 0)
  else
    let k := x.point - (n : Int)
    let d := roundScaled x.mantissa x.exponent k
    if d = tenTo n then (d / 10, x.point) else (d, x.point - 1)

def exponentChars (e : Int) : List Char :=
  (if e < 0 then '-' else '+') :: padZeros 2 (digitChars e.natAbs)

/-- One digit in front of the point, `places` behind it, and an exponent of two digits at least. -/
def Magnitude.scientific (x : Magnitude) (places : Nat) : List Char :=
  let (d, e) := x.leading (places + 1)
  pointed places d ++ 'e' :: exponentChars e

def dropTrailingZeros (cs : List Char) : List Char :=
  if cs.contains '.' then
    let kept := (cs.reverse.dropWhile (· == '0')).dropWhile (· == '.')
    kept.reverse
  else cs

def Magnitude.general (x : Magnitude) (n : Nat) : List Char :=
  let n := max n 1
  let (d, e) := x.leading n
  if -4 ≤ e && e < n then dropTrailingZeros (x.fixed ((n : Int) - 1 - e).toNat)
  else dropTrailingZeros (pointed (n - 1) d) ++ 'e' :: exponentChars e

end SchemaForge.Decimal
