import SchemaForge.Script.Value
import SchemaForge.Decimal.Rounded

/-! Formats: a text with places for values, each with flags, a width and a precision. -/

namespace SchemaForge.Script.Format

open Text (Utf8.ofString)
open Text.Utf8 (Bytes)

structure Spec where
  flags : List Char
  width : Nat
  precision : Option Nat
  conversion : Char

inductive Part where
  | text (bytes : Bytes)
  | place (spec : Spec)

def byteChar (b : UInt8) : Char := Char.ofNat b.toNat

def charByte (c : Char) : UInt8 := UInt8.ofNat c.toNat

def isFlag (c : Char) : Bool := "-+ #0".toList.contains c

def spec? (bytes : Bytes) : Except String (Spec × Bytes) :=
  let cs := bytes.map byteChar
  let flags := cs.takeWhile isFlag
  let cs := cs.dropWhile isFlag
  let width := cs.takeWhile Char.isDigit
  let cs := cs.dropWhile Char.isDigit
  let (precision, cs) := match cs with
    | '.' :: rest => (some (rest.takeWhile Char.isDigit), rest.dropWhile Char.isDigit)
    | rest => (none, rest)
  let tooLong := decide (2 < width.length) || decide (2 < (precision.getD []).length)
  match cs with
  | [] => .error "invalid conversion '%' to 'format'"
  | c :: rest =>
    if tooLong || !"diuoxXcsqeEfFgG".toList.contains c || c == 'u' then
      let shown := String.ofList ((bytes.map byteChar).take (bytes.length - rest.length))
      .error ("invalid conversion '%" ++ shown ++ "' to 'format'")
    else .ok (⟨flags, Numeric.digitsValue width, precision.map Numeric.digitsValue, c⟩,
      bytes.drop (bytes.length - rest.length))

def partsFrom (fuel : Nat) (bytes : Bytes) : Except String (List Part) :=
  match fuel with
  | 0 => .ok []
  | fuel + 1 =>
    match bytes with
    | [] => .ok []
    | 37 :: 37 :: rest => do
      let parts ← partsFrom fuel rest
      .ok (.text [37] :: parts)
    | 37 :: rest => do
      let (spec, rest) ← spec? rest
      let parts ← partsFrom fuel rest
      .ok (.place spec :: parts)
    | b :: rest => do
      let parts ← partsFrom fuel rest
      .ok (.text [b] :: parts)

def parts (format : Bytes) : Except String (List Part) := partsFrom (format.length + 1) format

def Spec.pad (spec : Spec) (sign body : List Char) (zeros : Bool) : List Char :=
  let missing := spec.width - (sign.length + body.length)
  if spec.flags.contains '-' then sign ++ body ++ List.replicate missing ' '
  else if zeros && spec.flags.contains '0' then sign ++ List.replicate missing '0' ++ body
  else List.replicate missing ' ' ++ sign ++ body

def Spec.sign (spec : Spec) (negative : Bool) : List Char :=
  if negative then ['-']
  else if spec.flags.contains '+' then ['+']
  else if spec.flags.contains ' ' then [' ']
  else []

def Spec.wholeDigits (spec : Spec) (ds : List Char) : List Char :=
  match spec.precision with
  | some 0 => if ds == ['0'] then [] else ds
  | some n => Decimal.padZeros n ds
  | none => ds

def Spec.decimal (spec : Spec) (i : Int64) : List Char :=
  spec.pad (spec.sign (decide (i.toInt < 0)))
    (spec.wholeDigits (Decimal.digitChars i.toInt.natAbs)) spec.precision.isNone

def Spec.unsigned (spec : Spec) (base : Nat) (upper : Bool) (i : Int64) : List Char :=
  let n := i.toUInt64.toNat
  let ds := Nat.toDigits base n
  let ds := if upper then ds.map Char.toUpper else ds
  let mark := if !spec.flags.contains '#' || n = 0 then []
    else if base = 16 then (if upper then ['0', 'X'] else ['0', 'x']) else ['0']
  spec.pad mark (spec.wholeDigits ds) spec.precision.isNone

def Spec.float (spec : Spec) (x : Float) : List Char :=
  let upper := spec.conversion.isUpper
  let kind := spec.conversion.toLower
  if x.isNaN then spec.pad (spec.sign true) (if upper then "NAN" else "nan").toList false
  else
    let negative := Decimal.isNegative x
    if x.isInf then spec.pad (spec.sign negative) (if upper then "INF" else "inf").toList false
    else
      let m := Decimal.Magnitude.ofBits x.toBits
      let n := spec.precision.getD 6
      let body := if kind == 'f' then m.fixed n
        else if kind == 'e' then m.scientific n
        else m.general n
      spec.pad (spec.sign negative) (if upper then body.map Char.toUpper else body) true

def Spec.text (spec : Spec) (bytes : Bytes) : Bytes :=
  let cut := match spec.precision with
    | some n => bytes.take n
    | none => bytes
  let missing := List.replicate (spec.width - cut.length) (32 : UInt8)
  if spec.flags.contains '-' then cut ++ missing else missing ++ cut

def quoted (bytes : Bytes) : Bytes :=
  let body (b : UInt8) (next : Option UInt8) : Bytes :=
    if b == 34 || b == 92 then [92, b]
    else if b == 10 then [92, 10]
    else if b == 13 then Utf8.ofString "\\r"
    else if b == 0 || b < 32 || b == 127 then
      let digits := (next.map fun n => decide (48 ≤ n) && decide (n ≤ 57)).getD false
      let text := Decimal.digitChars b.toNat
      92 :: (if digits then Decimal.padZeros 3 text else text).map charByte
    else [b]
  let rec go : Bytes → Bytes
    | [] => [34]
    | b :: rest => body b rest.head? ++ go rest
  34 :: go bytes

end SchemaForge.Script.Format
