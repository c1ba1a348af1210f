import SchemaForge.Decimal.Exact
import SchemaForge.Decimal.Layout
import SchemaForge.Text.Utf8

/-! Numbers of the script language: whole numbers of 64 bits and binary64 numbers, how one becomes
the other, and how both are read from text and written. -/

namespace SchemaForge.Script

open Text.Utf8 (Bytes)
open Decimal (isNegative exact whole? truncMod)

inductive Numeric where
  | int (i : Int64)
  | float (x : Float)
  deriving Inhabited, Repr

namespace Numeric

def toInt64? (x : Float) : Option Int64 :=
  match whole? x with
  | some z => if Word.isSigned z then some (Int64.ofInt z) else none
  | none => none

def toFloat : Numeric → Float
  | .int i => Decimal.ofWhole i.toInt
  | .float x => x

def toInt? : Numeric → Option Int64
  | .int i => some i
  | .float x => toInt64? x

/-- How a whole number stands to a binary64 number, exactly; nothing compares to NaN. -/
def compareInt? (i : Int64) (x : Float) : Option Ordering :=
  if x.isNaN then none
  else if x.isInf then some (if isNegative x then .gt else .lt)
  else
    let (m, e) := exact x
    if 0 ≤ e then some (compare i.toInt (m * twoTo e.toNat))
    else some (compare (i.toInt * twoTo (-e).toNat) m)

def compareFloat? (x y : Float) : Option Ordering :=
  if x < y then some .lt else if x == y then some .eq else if x > y then some .gt else none

def compare? : Numeric → Numeric → Option Ordering
  | .int a, .int b => some (compare a.toInt b.toInt)
  | .int a, .float y => compareInt? a y
  | .float x, .int b => (compareInt? b x).map Ordering.swap
  | .float x, .float y => compareFloat? x y

def less (a b : Numeric) : Bool := compare? a b == some .lt

def lessEq (a b : Numeric) : Bool := compare? a b == some .lt || compare? a b == some .eq

def equal (a b : Numeric) : Bool := compare? a b == some .eq

def floorDiv (a b : Int64) : Int64 := Int64.ofInt (Int.fdiv a.toInt b.toInt)

def floorMod (a b : Int64) : Int64 := Int64.ofInt (Int.fmod a.toInt b.toInt)

def floatMod (x y : Float) : Float :=
  let r := truncMod x y
  if (r > 0 && y < 0) || (r < 0 && y > 0) then r + y else r

/-- Shift to the left; a negative amount shifts to the right, bits that leave are lost. -/
def shiftLeft (a b : Int64) : Int64 :=
  let bits := a.toUInt64
  let n := b.toInt
  if n ≤ -64 || 64 ≤ n then 0
  else if 0 ≤ n then (bits <<< UInt64.ofNat n.toNat).toInt64
  else (bits >>> UInt64.ofNat (-n).toNat).toInt64

def text : Numeric → String
  | .int i => toString i.toInt
  | .float x => Decimal.scriptText x

def isSpace (c : Char) : Bool :=
  c == ' ' || c == '\n' || c == '\r' || c == '\t' || c == '\x0b' || c == '\x0c'

def hexValue? (c : Char) : Option Nat :=
  if '0' ≤ c && c ≤ '9' then some (c.toNat - 48)
  else if 'a' ≤ c && c ≤ 'f' then some (c.toNat - 87)
  else if 'A' ≤ c && c ≤ 'F' then some (c.toNat - 55)
  else none

def digitsValue (cs : List Char) : Nat := cs.foldl (fun n c => n * 10 + (c.toNat - 48)) 0

def hexDigitsValue (cs : List Char) : Nat := cs.foldl (fun n c => n * 16 + (hexValue? c).getD 0) 0

def readExponent? (cs : List Char) : Option Int :=
  let (negative, ds) := match cs with
    | '-' :: rest => (true, rest)
    | '+' :: rest => (false, rest)
    | rest => (false, rest)
  if ds.isEmpty || !ds.all Char.isDigit then none
  else
    let n : Int := digitsValue ds
    some (if negative then -n else n)

structure Numeral where
  whole : List Char
  fraction : List Char
  pointed : Bool
  exponent : Option Int

/-- Split an unsigned numeral whose digits are told by `digit` and whose exponent by `mark`. -/
def splitNumeral? (digit mark : Char → Bool) (cs : List Char) : Option Numeral :=
  let whole := cs.takeWhile digit
  let (pointed, rest) := match cs.dropWhile digit with
    | '.' :: rest => (true, rest)
    | rest => (false, rest)
  let fraction := if pointed then rest.takeWhile digit else []
  if whole.isEmpty && fraction.isEmpty then none
  else
    match (if pointed then rest.dropWhile digit else rest) with
    | [] => some ⟨whole, fraction, pointed, none⟩
    | c :: rest =>
      if mark c then (readExponent? rest).map fun e => ⟨whole, fraction, pointed, some e⟩
      else none

def capExponent (e : Int) : Int := max (-20000) (min 20000 e)

def negateIf (negative : Bool) (z : Int) : Int := if negative then -z else z

/-- A decimal numeral; a whole number that does not fit is read as a float. -/
def decimal? (negative : Bool) (cs : List Char) : Option Numeric :=
  match splitNumeral? Char.isDigit (fun c => c == 'e' || c == 'E') cs with
  | none => none
  | some n =>
    let z := negateIf negative (digitsValue n.whole : Nat)
    if !n.pointed && n.exponent.isNone && Word.isSigned z then some (.int (Int64.ofInt z))
    else
      let e := capExponent (n.exponent.getD 0) - (n.fraction.length : Int)
      let x := Float.ofScientific (digitsValue (n.whole ++ n.fraction)) (decide (e < 0)) e.natAbs
      some (.float (if negative then -x else x))

def hexadecimal? (negative : Bool) (cs : List Char) : Option Numeric :=
  match splitNumeral? (fun c => (hexValue? c).isSome) (fun c => c == 'p' || c == 'P') cs with
  | none => none
  | some n =>
    if !n.pointed && n.exponent.isNone then
      some (.int (Int64.ofInt (negateIf negative (hexDigitsValue n.whole : Nat))))
    else
      let e := capExponent (n.exponent.getD 0) - 4 * (n.fraction.length : Int)
      let x := (Float.ofNat (hexDigitsValue (n.whole ++ n.fraction))).scaleB e
      some (.float (if negative then -x else x))

def numeral? (negative : Bool) (cs : List Char) : Option Numeric :=
  match cs with
  | '0' :: x :: rest =>
    if x == 'x' || x == 'X' then hexadecimal? negative rest else decimal? negative cs
  | cs => decimal? negative cs

def ofChars? (cs : List Char) : Option Numeric :=
  let body := ((cs.dropWhile isSpace).reverse.dropWhile isSpace).reverse
  match body with
  | '-' :: rest => numeral? true rest
  | '+' :: rest => numeral? false rest
  | rest => numeral? false rest

def charsOf (bytes : Bytes) : List Char := bytes.map fun b => Char.ofNat b.toNat

def ofBytes? (bytes : Bytes) : Option Numeric := ofChars? (charsOf bytes)

end Numeric

end SchemaForge.Script
