import SchemaForge.Script.Native

/-! Library functions on numbers, and numbers drawn by chance. -/

namespace SchemaForge.Script.Library

def pi : Float := 3.141592653589793

def wholeOr (x : Float) : Value :=
  match Numeric.toInt64? x with
  | some i => .number (.int i)
  | none => .float x

def onFloat (f : Float → Float) (args : Args) : Native (List Value) := do
  return [.float (f (← args.float 1))]

def onRound (round : Float → Float) (args : Args) : Native (List Value) := do
  match args.get 1 with
  | .number (.int i) => return [.number (.int i)]
  | _ => return [wholeOr (round (← args.float 1))]

def onAbs (args : Args) : Native (List Value) := do
  match args.get 1 with
  | .number (.int i) => return [.number (.int (if i.toInt < 0 then -i else i))]
  | _ => return [.float (← args.float 1).abs]

def onFmod (args : Args) : Native (List Value) := do
  match args.get 1, args.get 2 with
  | .number (.int a), .number (.int b) =>
    Args.check 2 "zero" (b ≠ 0)
    return [.int (Int.tmod a.toInt b.toInt)]
  | _, _ =>
    let a ← args.float 1
    return [.float (Decimal.truncMod a (← args.float 2))]

def onModf (args : Args) : Native (List Value) := do
  match args.get 1 with
  | .number (.int i) => return [.number (.int i), .float 0]
  | _ =>
    let x ← args.float 1
    let whole := if x < 0 then x.ceil else x.floor
    return [.float whole, .float (if x == whole then 0 else x - whole)]

def onAtan (args : Args) : Native (List Value) := do
  let y ← args.float 1
  return [.float (Float.atan2 y (← args.orElse 2 1 Args.float))]

def onLog (args : Args) : Native (List Value) := do
  let x ← args.float 1
  if (args.get 2).isNil then return [.float x.log]
  let base ← args.float 2
  if base == 2 then return [.float x.log2]
  else if base == 10 then return [.float x.log10]
  else return [.float (x.log / base.log)]

def pickFrom (goesBefore : Value → Value → Native Bool) (best : Value) : Args → Native Value
  | [] => return best
  | v :: rest => do
    pickFrom goesBefore (if ← goesBefore v best then v else best) rest

def onPick (goesBefore : Value → Value → Native Bool) (args : Args) : Native (List Value) := do
  return [← pickFrom goesBefore (← args.any 1) args.tail]

def onMathType (args : Args) : Native (List Value) := do
  match ← args.any 1 with
  | .number (.int _) => return [.text "integer"]
  | .number (.float _) => return [.text "float"]
  | _ => return [.nil]

def onTointeger (args : Args) : Native (List Value) := do
  let v ← args.any 1
  return [((v.toNumber?.bind Numeric.toInt?).map fun i => Value.number (.int i)).getD .nil]

def onUlt (args : Args) : Native (List Value) := do
  let a := Int64.ofInt (← args.int 1)
  let b := Int64.ofInt (← args.int 2)
  return [.bool (a.toUInt64 < b.toUInt64)]

def rotate (x : UInt64) (n : UInt64) : UInt64 := (x <<< n) ||| (x >>> (64 - n))

def Seed.next (s : Seed) : UInt64 × Seed :=
  let c := s.c ^^^ s.a
  let d := s.d ^^^ s.b
  (rotate (s.b * 5) 7 * 9, ⟨s.a ^^^ d, s.b ^^^ c, c ^^^ (s.b <<< 17), rotate d 45⟩)

def Seed.ofNumbers (a b : UInt64) : Seed :=
  (List.range 16).foldl (fun s _ => (Seed.next s).2) ⟨a, 0xff, b, 0⟩

def drawNumber : Native UInt64 := do
  let (n, s) := Seed.next (← Native.seed)
  Native.setSeed s
  return n

/-- A number up to `last` from one of 64 bits: others are drawn until one is small enough. -/
def drawUpTo (last : UInt64) (fuel : Nat) (n : UInt64) : Native UInt64 := do
  let mask : UInt64 := if last = 0 then 0 else UInt64.ofNat (twoTo (last.toNat.log2 + 1) - 1)
  if n &&& mask ≤ last then return n &&& mask
  match fuel with
  | 0 => return last
  | fuel + 1 => drawUpTo last fuel (← drawNumber)

def onRandom (args : Args) : Native (List Value) := do
  let n ← drawNumber
  let between (low high : Int) : Native (List Value) := do
    Args.check args.length "interval is empty" (low ≤ high)
    let offset ← drawUpTo (UInt64.ofNat (high - low).toNat) stepLimit n
    return [.int (low + offset.toNat)]
  match args.length with
  | 0 => return [.float ((n >>> 11).toFloat * Float.scaleB 1 (-53))]
  | 1 =>
    let high ← args.int 1
    if high = 0 then return [.number (.int n.toInt64)] else between 1 high
  | 2 => between (← args.int 1) (← args.int 2)
  | _ => Native.message "wrong number of arguments"

def onRandomseed (args : Args) : Native (List Value) := do
  let (a, b) ← if args.isEmpty then Native.ask .seeds
    else do
      let a ← args.int 1
      pure ((Int64.ofInt a).toUInt64, (Int64.ofInt (← args.intOr 2 0)).toUInt64)
  Native.setSeed (Seed.ofNumbers a b)
  return [.number (.int a.toInt64), .number (.int b.toInt64)]

end SchemaForge.Script.Library
