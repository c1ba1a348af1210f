import SchemaForge.Decimal.Exact
import SchemaForge.Template.Failure

/-! Arithmetic and comparison of numbers. Two whole numbers of 64 bits give one or fail; a quotient
is whole if it can be; what has no binary64 value is no number. -/

namespace SchemaForge.Template

open Json (Number)

def isSigned : Number → Bool
  | .int i => Word.isSigned i
  | .float _ => false

def isUnsigned : Number → Bool
  | .int i => decide (0 ≤ i)
  | .float _ => false

def finite? (x : Float) : Option Number := if x.isFinite then some (.float x) else none

/-- Work on whole numbers where both are, signed before unsigned, or else on binary64 numbers. -/
def onNumbers (sign : String) (onInts : Int → Int → Int) (onFloats : Float → Float → Float)
    (l r : Number) : Except Failure (Option Number) :=
  match l, r with
  | .int a, .int b =>
    let z := onInts a b
    if isSigned l && isSigned r then
      if isSigned (.int z) then .ok (some (.int z)) else .error (.outOfBounds a sign b true)
    else if isUnsigned l && isUnsigned r then
      if 0 ≤ z ∧ z < Word.unsignedEnd then .ok (some (.int z)) else .error (.outOfBounds a sign b false)
    else .ok (finite? (onFloats (asFloat l) (asFloat r)))
  | l, r => .ok (finite? (onFloats (asFloat l) (asFloat r)))

def divide (l r : Number) : Option Number :=
  let x := asFloat l / asFloat r
  if x.isNaN then none
  else if x.isFinite && x.round == x then some (.int x.toInt64.toInt)
  else finite? x

/-- The remainder with the sign of the dividend; `none` stands for a whole divisor of zero. -/
def remainder (l r : Number) : Option (Option Number) :=
  let floats := some (finite? (Decimal.truncMod (asFloat l) (asFloat r)))
  match l, r with
  | .int a, .int b =>
    if (isSigned l && isSigned r) || (isUnsigned l && isUnsigned r) then
      if b = 0 then none else some (some (.int (Int.tmod a b)))
    else floats
  | _, _ => floats

def MathOp.apply (op : MathOp) (lhs rhs : Expr) (l r : Number) : Except Failure (Option Number) :=
  match op with
  | .add => onNumbers "+" (· + ·) (· + ·) l r
  | .sub => onNumbers "-" (· - ·) (· - ·) l r
  | .mul => onNumbers "x" (· * ·) (· * ·) l r
  | .div => .ok (divide l r)
  | .mod =>
    match remainder l r with
    | some n => .ok n
    | none => .error (.moduloByZero lhs rhs)

def OrderOp.holds (op : OrderOp) (l r : Number) : Bool :=
  match op with
  | .lt => asFloat l < asFloat r
  | .le => asFloat l ≤ asFloat r
  | .gt => asFloat r < asFloat l
  | .ge => asFloat r ≤ asFloat l

/-- Whether two values are equal, or are not. A number compares only to a number. -/
def equalAs (wanted : Bool) (v w : Json.Value) : Option Bool :=
  match v, w with
  | .number a, .number b => some ((asFloat a == asFloat b) == wanted)
  | .number _, _ => none
  | _, .number _ => none
  | v, w => some (same v w == wanted)

end SchemaForge.Template
