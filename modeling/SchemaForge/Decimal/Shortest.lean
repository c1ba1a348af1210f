import SchemaForge.Word

/-! Shortest decimal digits of a binary64 number.
The digits stand on the coarsest decimal grid that has a point in the interval of reals that
round to the number; of two such points on that grid the nearer one is taken. -/

namespace SchemaForge.Decimal

/-- A finite binary64 number without its sign: `mantissa * 2 ^ exponent`.
`narrow` marks a power of two, whose lower neighbour is half as far away as its upper one. -/
structure Magnitude where
  mantissa : Nat
  exponent : Int
  narrow : Bool
  deriving DecidableEq, Repr, Inhabited

def Magnitude.ofBits (bits : UInt64) : Magnitude :=
  let fraction := (bits &&& 0xFFFFFFFFFFFFF).toNat
  let biased := ((bits >>> 52) &&& 0x7FF).toNat
  if biased = 0 then ⟨fraction, -1074, false⟩
  else ⟨fraction + twoTo 52, (biased : Int) - 1075, fraction == 0 && decide (1 < biased)⟩

structure Digits where
  digits : Nat
  scale : Int
  deriving DecidableEq, Repr, Inhabited

def posPart (z : Int) : Nat := z.toNat
def negPart (z : Int) : Nat := (-z).toNat

def compareScaled (a : Nat) (q : Int) (c : Nat) (k : Int) : Ordering :=
  compare (a * twoTo (posPart q) * tenTo (negPart k))
    (c * tenTo (posPart k) * twoTo (negPart q))

def floorScaled (m : Nat) (q k : Int) : Nat :=
  m * twoTo (posPart q) * tenTo (negPart k) / (tenTo (posPart k) * twoTo (negPart q))

/-- Whether `c * 10 ^ k` rounds to the number. The ends of the interval round to it just when
the mantissa is even. -/
def Magnitude.rounds (x : Magnitude) (c : Nat) (k : Int) : Bool :=
  let low := 4 * x.mantissa - (if x.narrow then 1 else 2)
  let high := 4 * x.mantissa + 2
  let q := x.exponent - 2
  let closed := x.mantissa % 2 == 0
  match compareScaled low q c k, compareScaled high q c k with
  | .lt, .gt => true
  | .eq, _ => closed
  | _, .eq => closed
  | _, _ => false

/-- Whether the upper of the neighbours `c`, `c + 1` on the grid `10 ^ k` is the nearer one;
of two equally near ones, the even one is taken. -/
def Magnitude.nearerUp (x : Magnitude) (c : Nat) (k : Int) : Bool :=
  match compareScaled (2 * x.mantissa) x.exponent (2 * c + 1) k with
  | .lt => false
  | .gt => true
  | .eq => c % 2 == 1

def Magnitude.onGrid? (x : Magnitude) (k : Int) : Option Nat :=
  let c := floorScaled x.mantissa x.exponent k
  match x.rounds c k, x.rounds (c + 1) k with
  | true, true => some (if x.nearerUp c k then c + 1 else c)
  | true, false => some c
  | false, true => some (c + 1)
  | false, false => none

def Magnitude.point (x : Magnitude) : Int :=
  ((toString (floorScaled x.mantissa x.exponent (-350))).length : Int) - 350

def Digits.trim (d : Digits) : Digits :=
  if h : d.digits % 10 = 0 ∧ d.digits ≠ 0 then Digits.trim ⟨d.digits / 10, d.scale + 1⟩ else d
termination_by d.digits
decreasing_by omega

/-- Try the grids of 1, 2, … digits. Seventeen digits always suffice. -/
def Magnitude.shortest (x : Magnitude) : Digits :=
  if x.mantissa = 0 then ⟨0, 0⟩
  else
    let p := x.point
    let found := (List.range 17).findSome? fun (n : Nat) =>
      let k := p - ((n : Int) + 1)
      (x.onGrid? k).map fun c => (⟨c, k⟩ : Digits)
    (found.getD ⟨floorScaled x.mantissa x.exponent (p - 17), p - 17⟩).trim

/-- `m * 2 ^ q` to the nearest multiple of `10 ^ k`, a tie to the even multiple. -/
def roundScaled (m : Nat) (q k : Int) : Nat :=
  let num := m * twoTo (posPart q) * tenTo (negPart k)
  let den := tenTo (posPart k) * twoTo (negPart q)
  let c := num / den
  match compare (2 * (num % den)) den with
  | .lt => c
  | .gt => c + 1
  | .eq => c + c % 2

def Magnitude.significant (x : Magnitude) (n : Nat) : Digits :=
  if x.mantissa = 0 then ⟨0, 0⟩
  else
    let k := x.point - (n : Int)
    (⟨roundScaled x.mantissa x.exponent k, k⟩ : Digits).trim

end SchemaForge.Decimal
