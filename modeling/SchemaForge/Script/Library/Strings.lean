import SchemaForge.Script.Native
import SchemaForge.Script.Pattern
import SchemaForge.Script.Format

/-! Library functions on strings. -/

namespace SchemaForge.Script

open Text (Utf8.ofString)
open Text.Utf8 (Bytes)

def Native.ofTexts {α : Type} : Except String α → Native α
  | .ok a => .pure a
  | .error text => .fail (.message text)

namespace Library

def rangeStart (length : Nat) (i : Int) : Nat :=
  if 0 < i then i.toNat
  else if i = 0 then 1
  else if (length : Int) < -i then 1
  else ((length : Int) + i + 1).toNat

def rangeEnd (length : Nat) (i : Int) : Nat :=
  if (length : Int) < i then length
  else if 0 ≤ i then i.toNat
  else if (length : Int) < -i then 0
  else ((length : Int) + i + 1).toNat

def slice (b : Bytes) (first last : Nat) : Bytes :=
  if last < first then [] else (b.drop (first - 1)).take (last - (first - 1))

def upperByte (b : UInt8) : UInt8 := if 97 ≤ b && b ≤ 122 then b - 32 else b

def lowerByte (b : UInt8) : UInt8 := if 65 ≤ b && b ≤ 90 then b + 32 else b

def onBytes (f : Bytes → Value) (args : Args) : Native (List Value) := do
  return [f (← args.bytes 1)]

def onByte (args : Args) : Native (List Value) := do
  let b ← args.bytes 1
  let i ← args.intOr 2 1
  let j ← args.intOr 3 (rangeStart b.length i : Nat)
  return (slice b (rangeStart b.length i) (rangeEnd b.length j)).map fun x => .int x.toNat

def onChar (args : Args) : Native (List Value) := do
  let bytes ← (List.range args.length).mapM fun n => do
    let c ← args.int (n + 1)
    Args.check (n + 1) "value out of range" (0 ≤ c && c ≤ 255)
    return UInt8.ofNat c.toNat
  return [.string bytes]

def onRep (args : Args) : Native (List Value) := do
  let b ← args.bytes 1
  let n ← args.int 2
  let separator ← args.bytesOr 3 []
  if n ≤ 0 then return [.string []]
  else if Word.signedEnd32 ≤ n * (b.length + separator.length : Nat) then
    Native.message "resulting string too large"
  else return [.string (separator.intercalate (List.replicate n.toNat b))]

def onSub (args : Args) : Native (List Value) := do
  let b ← args.bytes 1
  let i ← args.int 2
  let j ← args.intOr 3 (-1)
  return [.string (slice b (rangeStart b.length i) (rangeEnd b.length j))]

def isPlain (pat : Bytes) : Bool :=
  !pat.any fun b => "^$*+?.([%-".toList.contains (Char.ofNat b.toNat)

def findPlain? (src pat : Bytes) (fuel s : Nat) : Option Nat :=
  match fuel with
  | 0 => none
  | fuel + 1 =>
    if pat.isPrefixOf (src.drop s) then some s
    else if src.length ≤ s then none
    else findPlain? src pat fuel (s + 1)

def onFind (find : Bool) (args : Args) : Native (List Value) := do
  let b ← args.bytes 1
  let pat ← args.bytes 2
  let start := rangeStart b.length (← args.intOr 3 1)
  if b.length + 1 < start then return [.nil]
  else if find && ((args.get 4).truthy || isPlain pat) then
    match findPlain? b pat (b.length + 1) (start - 1) with
    | some s => return [.int (s + 1), .int (s + pat.length)]
    | none => return [.nil]
  else
    let src := b.toArray
    match ← Native.ofTexts (Pattern.find src pat.toArray (start - 1)) with
    | none => return [.nil]
    | some (s, e, caps) =>
      let values ← if find && caps.isEmpty then pure []
        else Native.ofTexts (Pattern.captureValues src s e caps)
      return if find then .int (s + 1) :: .int e :: values else values

def onGmatch (args : Args) : Native (List Value) := do
  let b ← args.bytes 1
  let pat ← args.bytes 2
  let start := rangeStart b.length (← args.intOr 3 1)
  let progress ← Native.newTable
    (((Table.sized 0 2).setInt 1 (.int (start - 1 : Nat))).setInt 2 (.int (-1)))
  return [← Native.newClosure (.bound .stringGmatchStep [.string b, .string pat, progress])]

def gmatchFrom (src pat : Array UInt8) (last : Int) (fuel s : Nat) :
    Except String (Option (Nat × Nat × Pattern.Captures)) :=
  match fuel with
  | 0 => .ok none
  | fuel + 1 =>
    match Pattern.matchFrom src pat (2 * pat.size + src.size + 200) s 0 [] with
    | .error e => .error e
    | .ok (some (e, caps)) =>
      if (e : Int) = last then
        if src.size ≤ s then .ok none else gmatchFrom src pat last fuel (s + 1)
      else .ok (some (s, e, caps))
    | .ok none => if src.size ≤ s then .ok none else gmatchFrom src pat last fuel (s + 1)

def onGmatchStep (args : Args) : Native (List Value) := do
  match args with
  | .string b :: .string pat :: .table place :: _ =>
    let t ← Native.table place
    let number (n : Nat) : Int := match t.getInt n with
      | .number (.int i) => i.toInt
      | _ => 0
    let src := b.toArray
    let s := (number 1).toNat
    if src.size < s then return [.nil]
    match ← Native.ofTexts (gmatchFrom src pat.toArray (number 2) (src.size + 2) s) with
    | none =>
      Native.setTable place (t.setInt 1 (.int (src.size + 1)))
      return [.nil]
    | some (s, e, caps) =>
      let values ← Native.ofTexts (Pattern.captureValues src s e caps)
      Native.setTable place ((t.setInt 1 (.int e)).setInt 2 (.int e))
      return values
  | _ => return [.nil]

def expand (src : Array UInt8) (s e : Nat) (caps : Pattern.Captures) : Bytes → Except String Bytes
  | [] => .ok []
  | 37 :: [] => .error "invalid use of '%' in replacement string"
  | 37 :: c :: rest => do
    let tail ← expand src s e caps rest
    if c == 37 then .ok (37 :: tail)
    else if c == 48 then .ok (Pattern.spanText src s (e - s) ++ tail)
    else if 49 ≤ c && c ≤ 57 then
      let values ← Pattern.captureValues src s e caps
      match values[c.toNat - 49]? with
      | some v => .ok (v.plainText ++ tail)
      | none => .error (s!"invalid capture index %{c.toNat - 48} in replacement string")
    else .error "invalid use of '%' in replacement string"
  | c :: rest => do
    let tail ← expand src s e caps rest
    .ok (c :: tail)

/-- What stands for a match; a value that is no text leaves the match as it is, or is refused. -/
def replacement (src : Array UInt8) (s e : Nat) (caps : Pattern.Captures) (repl : Value) :
    Native Bytes := do
  let captures : Native (List Value) := Native.ofTexts (Pattern.captureValues src s e caps)
  let value (v : Value) : Native Bytes :=
    match v, v.toBytes? with
    | .nil, _ | .bool false, _ => return Pattern.spanText src s (e - s)
    | _, some b => return b
    | v, none => Native.message s!"invalid replacement value (a {v.typeName})"
  match repl with
  | .string r => Native.ofTexts (expand src s e caps r)
  | .number n => Native.ofTexts (expand src s e caps (Utf8.ofString n.text))
  | .table _ => value (← Native.get repl ((← captures).head?.getD .nil))
  | f => value (← Native.result f (← captures))

/-- Replace up to `limit` matches from position `s` on; a match that ends where the last one did does
not count. -/
def gsubFrom (src pat : Array UInt8) (anchored : Bool) (repl : Value) (fuel limit count s : Nat)
    (last : Int) (out : Bytes) : Native (List Value) := do
  let finish (s : Nat) (out : Bytes) (count : Nat) : List Value :=
    [.string (out ++ (src.extract s src.size).toList), .int count]
  match fuel with
  | 0 => return finish s out count
  | fuel + 1 =>
    if limit ≤ count then return finish s out count
    let start := if anchored then 1 else 0
    match ← Native.ofTexts (Pattern.matchFrom src pat (2 * pat.size + src.size + 200) s start []) with
    | some (e, caps) =>
      if (e : Int) ≠ last then
        let b ← replacement src s e caps repl
        if anchored then return finish e (out ++ b) (count + 1)
        gsubFrom src pat anchored repl fuel limit (count + 1) e e (out ++ b)
      else if src.size ≤ s || anchored then return finish s out count
      else gsubFrom src pat anchored repl fuel limit count (s + 1) last (out ++ [src[s]?.getD 0])
    | none =>
      if src.size ≤ s || anchored then return finish s out count
      gsubFrom src pat anchored repl fuel limit count (s + 1) last (out ++ [src[s]?.getD 0])

def onGsub (args : Args) : Native (List Value) := do
  let b ← args.bytes 1
  let pat ← args.bytes 2
  let kind := (args.get 3).typeName
  if kind ∉ ["string", "number", "function", "table"] then
    args.wrongType (α := Unit) 3 "string/function/table"
  let limit ← args.intOr 4 (b.length + 1 : Nat)
  let pat := pat.toArray
  let anchored := decide (0 < pat.size) && Pattern.byteAt pat 0 == '^'
  gsubFrom b.toArray pat anchored (args.get 3) (b.length + 2) limit.toNat 0 0 (-1) []

def formatted (args : Args) (n : Nat) (spec : Format.Spec) : Native Bytes := do
  let chars (cs : List Char) : Bytes := cs.map Format.charByte
  if args.length < n then .fail (.argument n "no value")
  match spec.conversion with
  | 'd' | 'i' => return chars (spec.decimal (Int64.ofInt (← args.int n)))
  | 'o' => return chars (spec.unsigned 8 false (Int64.ofInt (← args.int n)))
  | 'x' => return chars (spec.unsigned 16 false (Int64.ofInt (← args.int n)))
  | 'X' => return chars (spec.unsigned 16 true (Int64.ofInt (← args.int n)))
  | 'c' => return spec.text [UInt8.ofNat ((← args.int n) % 256).toNat]
  | 's' => return spec.text (← Native.textOf (args.get n))
  | 'q' =>
    match args.get n with
    | .string b => return Format.quoted b
    | .nil => return Value.nil.plainText
    | .bool b => return (Value.bool b).plainText
    | .number x => return (Value.number x).plainText
    | _ => .fail (.argument n "value has no literal form")
  | _ => return chars (spec.float (← args.float n))

def formatFrom (args : Args) (n : Nat) : List Format.Part → Native Bytes
  | [] => return []
  | .text b :: rest => do return b ++ (← formatFrom args n rest)
  | .place spec :: rest => do
    let b ← formatted args n spec
    return b ++ (← formatFrom args (n + 1) rest)

def onFormat (args : Args) : Native (List Value) := do
  let parts ← Native.ofTexts (Format.parts (← args.bytes 1))
  return [.string (← formatFrom args 2 parts)]

def onDump (args : Args) : Native (List Value) := do
  match ← args.function 1 with
  | .closure place =>
    match ← Native.access (.closure place) .pure with
    | .script _ body _ =>
      return [.string (← Native.access (.dump body (args.get 2).truthy) .pure)]
    | .bound .. => Native.message "unable to dump given function"
  | _ => Native.message "unable to dump given function"

end Library

end SchemaForge.Script
