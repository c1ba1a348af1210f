import SchemaForge.Json.Value
import SchemaForge.Word

/-! What a plain YAML scalar stands for: null, a truth value, a number, or its own text. -/

namespace SchemaForge.Yaml

open Json (Value)

def isNull (s : String) : Bool := s == "" || s == "~" || s == "null" || s == "Null" || s == "NULL"

def bool? (s : String) : Option Bool :=
  if s == "true" || s == "True" || s == "TRUE" then some true
  else if s == "false" || s == "False" || s == "FALSE" then some false
  else none

def digitOf? (c : Char) : Option Nat :=
  if '0' ≤ c && c ≤ '9' then some (c.toNat - 48)
  else if 'a' ≤ c && c ≤ 'f' then some (c.toNat - 87)
  else if 'A' ≤ c && c ≤ 'F' then some (c.toNat - 55)
  else none

def natOf? (base : Nat) (cs : List Char) : Option Nat :=
  if cs.isEmpty then none
  else cs.foldlM (fun n c => (digitOf? c).bind fun d => if d < base then some (n * base + d) else none) 0

def splitSign : List Char → Bool × List Char
  | '-' :: rest => (true, rest)
  | '+' :: rest => (false, rest)
  | cs => (false, cs)

/-- A whole number in one of the written bases. Leading zeros make a text, not a number. -/
def int? (cs : List Char) : Option Int :=
  let (negative, body) := splitSign cs
  let size := match body with
    | '0' :: 'x' :: rest => natOf? 16 rest
    | '0' :: 'o' :: rest => natOf? 8 rest
    | '0' :: 'b' :: rest => natOf? 2 rest
    | '0' :: _ :: _ => none
    | body => natOf? 10 body
  size.map fun n => if negative then -(n : Int) else n

def digitRun (cs : List Char) : List Char × List Char := cs.span Char.isDigit

def natOfDigits (cs : List Char) : Nat := (natOf? 10 cs).getD 0

def floatOf (negative : Bool) (digits : Nat) (exponent : Int) : Float :=
  let size :=
    if digits = 0 then 0.0
    else if exponent < -5000 then 0.0
    else if 5000 < exponent then 1.0 / 0.0
    else if exponent < 0 then Float.ofScientific digits true (-exponent).toNat
    else Float.ofScientific digits false exponent.toNat
  if negative then -size else size

/-- A decimal number: digits on at least one side of a point, then perhaps an exponent. -/
def decimal? (cs : List Char) : Option Float :=
  let (negative, body) := splitSign cs
  let (whole, rest) := digitRun body
  let (fraction, rest) := match rest with
    | '.' :: rest => digitRun rest
    | rest => ([], rest)
  if whole.isEmpty && fraction.isEmpty then none
  else
    let mantissa := natOfDigits (whole ++ fraction)
    match rest with
    | [] => some (floatOf negative mantissa (-(fraction.length : Int)))
    | 'e' :: rest | 'E' :: rest =>
      let (down, rest) := splitSign rest
      let (power, rest) := digitRun rest
      if power.isEmpty || !rest.isEmpty then none
      else
        let e : Int := natOfDigits power
        some (floatOf negative mantissa ((if down then -e else e) - fraction.length))
    | _ => none

def zeroPadded (cs : List Char) : Bool :=
  match (splitSign cs).2 with
  | '0' :: d :: rest => (d :: rest).all Char.isDigit
  | _ => false

def float? (s : String) : Option Float :=
  let cs := s.toList
  if s == ".inf" || s == ".Inf" || s == ".INF" || s == "+.inf" || s == "+.Inf" || s == "+.INF" then
    some (1.0 / 0.0)
  else if s == "-.inf" || s == "-.Inf" || s == "-.INF" then some (-1.0 / 0.0)
  else if s == ".nan" || s == ".NaN" || s == ".NAN" then some (0.0 / 0.0)
  else if zeroPadded cs then none
  else
    match decimal? cs with
    | some x => if x.isFinite then some x else none
    | none => none

def intFits (i : Int) : Bool := decide (-(Word.signedEnd : Int) ≤ i) && decide (i < Word.unsignedEnd)

/-- What a plain scalar stands for. A whole number of more than 64 bits stands for nothing if it is
within 128 bits, and for a binary64 number beyond. -/
def plain? (s : String) : Option Value :=
  if isNull s then some .null
  else
    match bool? s with
    | some b => some (.bool b)
    | none =>
      match int? s.toList with
      | some i =>
        if intFits i then some (.number (.int i))
        else if decide (-(twoTo 127 : Int) ≤ i) && decide (i < twoTo 128) then none
        else
          match float? s with
          | some x => some (Value.ofFloat x)
          | none => some (.string s)
      | none =>
        match float? s with
        | some x => some (Value.ofFloat x)
        | none => some (.string s)

end SchemaForge.Yaml
