import SchemaForge.Calendar.Date
import SchemaForge.Decimal.Layout
import SchemaForge.Word

/-! Instants and their texts by RFC 3339. -/

namespace SchemaForge.Calendar

/-- Seconds since the start of 1970 in UTC and nanoseconds. A leap second is the second before it
with a thousand million nanoseconds more. -/
structure Instant where
  seconds : Int
  nanos : Nat
  deriving DecidableEq, Repr, Inhabited

def nanosPerSecond : Nat := 1000000000

def firstDay : Int := Date.toDay ⟨-262143, 1, 1⟩
def lastDay : Int := Date.toDay ⟨262142, 12, 31⟩

namespace Instant

def ofSeconds? (seconds : Int) (nanos : Nat) : Option Instant :=
  let day := seconds / 86400
  if firstDay ≤ day && day ≤ lastDay then some ⟨seconds, nanos⟩ else none

def padded (width n : Nat) : String := Decimal.padLeft width (toString n)

def yearText (year : Int) : String :=
  if 0 ≤ year && year ≤ 9999 then padded 4 year.toNat
  else (if year < 0 then "-" else "+") ++ padded 4 year.natAbs

def fractionText (nanos : Nat) : String :=
  if nanos = 0 then ""
  else if nanos % 1000000 = 0 then "." ++ padded 3 (nanos / 1000000)
  else if nanos % 1000 = 0 then "." ++ padded 6 (nanos / 1000)
  else "." ++ padded 9 nanos

def text (i : Instant) : String :=
  let date := Date.ofDay (i.seconds / 86400)
  let time := (i.seconds % 86400).toNat
  let leap := decide (nanosPerSecond ≤ i.nanos)
  let second := time % 60 + (if leap then 1 else 0)
  yearText date.year ++ "-" ++ padded 2 date.month ++ "-" ++ padded 2 date.day ++ "T" ++
    padded 2 (time / 3600) ++ ":" ++ padded 2 (time / 60 % 60) ++ ":" ++ padded 2 second ++
    fractionText (if leap then i.nanos - nanosPerSecond else i.nanos) ++ "Z"

def digits? (n : Nat) (cs : List Char) : Option (Nat × List Char) :=
  let ds := cs.take n
  if ds.length = n && ds.all Char.isDigit then
    some (ds.foldl (fun v c => v * 10 + (c.toNat - 48)) 0, cs.drop n)
  else none

def char? (c : Char) : List Char → Option (List Char)
  | d :: rest => if d = c then some rest else none
  | [] => none

def fraction? (cs : List Char) : Option (Nat × List Char) :=
  match cs with
  | '.' :: rest =>
    let ds := rest.takeWhile Char.isDigit
    if ds.isEmpty then none
    else
      let kept := ds.take 9
      let v := kept.foldl (fun v c => v * 10 + (c.toNat - 48)) 0
      some (v * tenTo (9 - kept.length), rest.dropWhile Char.isDigit)
  | cs => some (0, cs)

def offset? : List Char → Option (Int × List Char)
  | [] => none
  | c :: rest =>
    if c = 'Z' || c = 'z' then some (0, rest)
    else if c = '+' || c = '-' || c = '\u2212' then do
      let (hours, rest) ← digits? 2 rest
      let rest ← char? ':' rest
      let (minutes, rest) ← digits? 2 rest
      if minutes ≤ 59 && hours ≤ 23 then
        let seconds : Int := hours * 3600 + minutes * 60
        some (if c = '+' then seconds else -seconds, rest)
      else none
    else none

def isSeparator (c : Char) : Bool := c = 'T' || c = 't' || c = ' '

def parse? (s : String) : Option Instant := do
  let (year, rest) ← digits? 4 s.toList
  let rest ← char? '-' rest
  let (month, rest) ← digits? 2 rest
  let rest ← char? '-' rest
  let (day, rest) ← digits? 2 rest
  let rest ← match rest with
    | c :: rest => if isSeparator c then some rest else none
    | [] => none
  let (hour, rest) ← digits? 2 rest
  let rest ← char? ':' rest
  let (minute, rest) ← digits? 2 rest
  let rest ← char? ':' rest
  let (second, rest) ← digits? 2 rest
  let (nanos, rest) ← fraction? rest
  let (offset, rest) ← offset? rest
  let date : Date := ⟨year, month, day⟩
  if rest.isEmpty && date.valid && hour ≤ 23 && minute ≤ 59 && second ≤ 60 then
    let leap := second == 60
    let time : Int := hour * 3600 + minute * 60 + (if leap then 59 else second)
    some ⟨date.toDay * 86400 + time - offset, if leap then nanos + nanosPerSecond else nanos⟩
  else none

end Instant

end SchemaForge.Calendar
