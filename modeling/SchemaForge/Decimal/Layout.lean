import SchemaForge.Decimal.Shortest

/-! Written forms of binary64 numbers: which exponents are written with the digits in place,
what marks a whole number, and how an exponent looks. -/

namespace SchemaForge.Decimal

structure Layout where
  /-- The scientific exponents that are written in place; all of them if absent. -/
  inPlace : Option (Int × Int)
  /-- Whether a whole number written in place ends in `.0`. -/
  wholeMark : Bool
  positiveExponent : String
  exponentWidth : Nat
  notANumber : String
  infinity : String
  deriving Inhabited

def Layout.json : Layout := ⟨some (-5, 15), true, "+", 1, "null", "null"⟩

/-- Numbers in running text: digits in place whatever their size, no mark on whole numbers. -/
def Layout.plain : Layout := ⟨none, false, "", 1, "NaN", "inf"⟩

def Layout.listing : Layout := ⟨some (-4, 15), true, "", 1, "NaN", "inf"⟩

def Layout.script : Layout := ⟨some (-4, 13), true, "+", 2, "-nan", "inf"⟩

def padLeft (width : Nat) (s : String) : String :=
  String.ofList (List.replicate (width - s.length) '0') ++ s

def Layout.place (l : Layout) (text : List Char) (scale : Int) : List Char :=
  if 0 ≤ scale then
    text ++ List.replicate scale.toNat '0' ++ (if l.wholeMark then ['.', '0'] else [])
  else
    let cut := (-scale).toNat
    if cut < text.length then
      text.take (text.length - cut) ++ '.' :: text.drop (text.length - cut)
    else '0' :: '.' :: (List.replicate (cut - text.length) '0' ++ text)

def Layout.scientific (l : Layout) (text : List Char) (exponent : Int) : List Char :=
  let body := match text with
    | d :: [] => [d]
    | d :: rest => d :: '.' :: rest
    | [] => []
  let size := (padLeft l.exponentWidth (toString exponent.natAbs)).toList
  body ++ 'e' :: ((if exponent < 0 then ['-'] else l.positiveExponent.toList) ++ size)

def Layout.writeDigits (l : Layout) (d : Digits) : String :=
  if d.digits = 0 then if l.wholeMark then "0.0" else "0"
  else
    let text := (toString d.digits).toList
    let exponent := d.scale + (text.length : Int) - 1
    let inside := match l.inPlace with
      | none => true
      | some (low, high) => decide (low ≤ exponent) && decide (exponent ≤ high)
    String.ofList (if inside then l.place text d.scale else l.scientific text exponent)

def Layout.writeWith (l : Layout) (pick : Magnitude → Digits) (x : Float) : String :=
  if x.isNaN then l.notANumber
  else
    let negative := x.toBits >>> 63 == 1
    let size := if x.isInf then l.infinity else l.writeDigits (pick (Magnitude.ofBits x.toBits))
    if negative then "-" ++ size else size

def Layout.write (l : Layout) (x : Float) : String := l.writeWith Magnitude.shortest x

/-- A number inside JSON text, where neither infinity nor a missing number has a sign. -/
def jsonText (x : Float) : String :=
  if x.isFinite then Layout.json.write x else Layout.json.notANumber

def plainText (x : Float) : String := Layout.plain.write x

def listingText (x : Float) : String := Layout.listing.write x

def scriptText (x : Float) : String := Layout.script.writeWith (·.significant 14) x

end SchemaForge.Decimal
