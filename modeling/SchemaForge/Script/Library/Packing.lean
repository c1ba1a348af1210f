import SchemaForge.Script.Library.Strings

/-! Values packed into strings: formats, and how numbers and texts are laid out in bytes. -/

namespace SchemaForge.Script.Library

open Text.Utf8 (Bytes)

inductive Packed where
  | int
  | unsigned
  | float
  | double
  | chars
  | counted
  | zeroEnded
  | padding
  | align
  | nothing
  deriving DecidableEq, Repr

structure Packing where
  little : Bool
  maxAlign : Nat

structure PackItem where
  kind : Packed
  size : Nat
  fill : Nat

def packNumber (fallback : Option Nat) (format : Bytes) : Option Nat × Bytes :=
  let rec digits (fuel n : Nat) : Bytes → Nat × Bytes
    | [] => (n, [])
    | c :: rest =>
      match fuel with
      | 0 => (n, c :: rest)
      | fuel + 1 =>
        if 48 ≤ c && c ≤ 57 && n ≤ (Word.signedEnd32 - 10) / 10 then
          digits fuel (n * 10 + (c.toNat - 48)) rest
        else (n, c :: rest)
  match format with
  | c :: _ =>
    if 48 ≤ c && c ≤ 57 then
      let (n, rest) := digits format.length 0 format
      (some n, rest)
    else (fallback, format)
  | [] => (fallback, [])

def packSize (fallback : Nat) (format : Bytes) : Args.Result (Nat × Bytes) :=
  let (n, rest) := packNumber (some fallback) format
  let n := n.getD fallback
  if 16 < n || n = 0 then
    .error (.message s!"integral size ({n}) out of limits [1,16]")
  else .ok (n, rest)

def packOption (p : Packing) (format : Bytes) : Args.Result (Packing × Packed × Nat × Bytes) := do
  let sized (kind : Packed) (fallback : Nat) (rest : Bytes) :
      Args.Result (Packing × Packed × Nat × Bytes) := do
    let (n, rest) ← packSize fallback rest
    return (p, kind, n, rest)
  match format with
  | [] => return (p, .nothing, 0, [])
  | c :: rest =>
    match Char.ofNat c.toNat with
    | 'b' => return (p, .int, 1, rest)
    | 'B' => return (p, .unsigned, 1, rest)
    | 'h' => return (p, .int, 2, rest)
    | 'H' => return (p, .unsigned, 2, rest)
    | 'l' | 'j' => return (p, .int, 8, rest)
    | 'L' | 'J' | 'T' => return (p, .unsigned, 8, rest)
    | 'i' => sized .int 4 rest
    | 'I' => sized .unsigned 4 rest
    | 'f' => return (p, .float, 4, rest)
    | 'd' | 'n' => return (p, .double, 8, rest)
    | 's' => sized .counted 8 rest
    | 'c' =>
      match packNumber none rest with
      | (some n, rest) => return (p, .chars, n, rest)
      | (none, _) => .error (.message "missing size for format option 'c'")
    | 'z' => return (p, .zeroEnded, 0, rest)
    | 'x' => return (p, .padding, 1, rest)
    | 'X' => return (p, .align, 0, rest)
    | ' ' => return (p, .nothing, 0, rest)
    | '<' | '=' => return ({ p with little := true }, .nothing, 0, rest)
    | '>' => return ({ p with little := false }, .nothing, 0, rest)
    | '!' =>
      let (n, rest) ← packSize 8 rest
      return ({ p with maxAlign := n }, .nothing, 0, rest)
    | c => .error (.message s!"invalid format option '{c}'")

/-- Read the option at the start of a format, where `total` bytes stand in front of it. -/
def packItem (p : Packing) (total : Nat) (format : Bytes) :
    Args.Result (Packing × PackItem × Bytes) := do
  let (p, kind, size, rest) ← packOption p format
  let (p, align, rest) ←
    if kind = .align then do
      let (p, next, align, behind) ← packOption p rest
      if rest.isEmpty || next = .chars || align = 0 then
        Args.wrong 1 "invalid next option for option 'X'"
      pure (p, align, behind)
    else pure (p, size, rest)
  if align ≤ 1 || kind = .chars then return (p, ⟨kind, size, 0⟩, rest)
  let align := min align p.maxAlign
  if align &&& (align - 1) ≠ 0 then
    Args.wrong 1 "format asks for alignment not power of 2"
  return (p, ⟨kind, size, (align - total % align) % align⟩, rest)

def wholeBytes (little : Bool) (size : Nat) (n : Int) : Bytes :=
  let bytes := (List.range size).map fun i => UInt8.ofNat ((n / (twoTo (8 * i) : Nat)) % 256).toNat
  if little then bytes else bytes.reverse

def unsignedOf (n : Int) : Nat := (n % (Word.unsignedEnd : Int)).toNat

def packValue (p : Packing) (item : PackItem) (args : Args) (n : Nat) : Args.Result Bytes := do
  match item.kind with
  | .int =>
    let i ← args.int n
    let limit : Int := (twoTo (8 * item.size - 1) : Nat)
    Args.check n "integer overflow" (8 ≤ item.size || (-limit ≤ i && i < limit))
    return wholeBytes p.little item.size i
  | .unsigned =>
    let i ← args.int n
    Args.check n "unsigned overflow" (8 ≤ item.size || unsignedOf i < twoTo (8 * item.size))
    return wholeBytes p.little item.size (unsignedOf i : Nat)
  | .float =>
    let x ← args.float n
    return wholeBytes p.little 4 (x.toFloat32.toBits.toNat : Nat)
  | .double =>
    let x ← args.float n
    return wholeBytes p.little 8 (x.toBits.toNat : Nat)
  | .chars =>
    let b ← args.bytes n
    Args.check n "string longer than given size" (b.length ≤ item.size)
    return b ++ List.replicate (item.size - b.length) 0
  | .counted =>
    let b ← args.bytes n
    Args.check n "string length does not fit in given size"
      (8 ≤ item.size || b.length < twoTo (8 * item.size))
    return wholeBytes p.little item.size (b.length : Nat) ++ b
  | .zeroEnded =>
    let b ← args.bytes n
    Args.check n "string contains zeros" (!b.contains 0)
    return b ++ [0]
  | .padding => return [0]
  | .align | .nothing => return []

def Packed.isValue : Packed → Bool
  | .padding | .align | .nothing => false
  | _ => true

def packFrom (args : Args) (fuel n : Nat) (p : Packing) (out format : Bytes) : Args.Result Bytes :=
  match fuel with
  | 0 => .ok out
  | fuel + 1 => do
    if format.isEmpty then return out
    let (p, item, rest) ← packItem p out.length format
    let b ← packValue p item args n
    packFrom args fuel (if item.kind.isValue then n + 1 else n) p
      (out ++ List.replicate item.fill 0 ++ b) rest

def Packing.native : Packing := ⟨true, 1⟩

def onPack (args : Args) : Native (List Value) := do
  let format := (← args.bytes 1).takeWhile (· != 0)
  return [.string (← packFrom args (format.length + 1) 2 .native [] format)]

def packsizeFrom (fuel : Nat) (p : Packing) (total : Nat) (format : Bytes) : Args.Result Nat :=
  match fuel with
  | 0 => .ok total
  | fuel + 1 => do
    if format.isEmpty then return total
    let (p, item, rest) ← packItem p total format
    Args.check 1 "variable-length format" (item.kind ≠ .counted && item.kind ≠ .zeroEnded)
    let size := item.fill + item.size
    Args.check 1 "format result too large" (total + size < Word.signedEnd32)
    packsizeFrom fuel p (total + size) rest

def onPacksize (args : Args) : Native (List Value) := do
  let format := (← args.bytes 1).takeWhile (· != 0)
  return [.int (← packsizeFrom (format.length + 1) .native 0 format)]

def wholeOf (little signed : Bool) (bytes : Bytes) : Args.Result Int :=
  let ordered := if little then bytes.reverse else bytes
  let n := ordered.foldl (fun n b => n * 256 + b.toNat) 0
  let above := twoTo (8 * bytes.length)
  let i : Int := if signed && above ≤ 2 * n then (n : Int) - above else n
  let fits := if signed then Word.isSigned i else decide (n < Word.unsignedEnd)
  if 8 < bytes.length && !fits then
    .error (.message s!"{bytes.length}-byte integer does not fit into Lua Integer")
  else .ok i

/-- Read the value of an option at a position, and how many bytes behind its own size it takes. -/
def unpackValue (p : Packing) (item : PackItem) (b : Bytes) : Args.Result (List Value × Nat) := do
  let own := b.take item.size
  match item.kind with
  | .int => return ([.int (← wholeOf p.little true own)], 0)
  | .unsigned => return ([.int (← wholeOf p.little false own)], 0)
  | .float =>
    let bits ← wholeOf p.little false own
    return ([.float (Float32.ofBits (UInt32.ofNat bits.toNat)).toFloat], 0)
  | .double =>
    let bits ← wholeOf p.little false own
    return ([.float (Float.ofBits (UInt64.ofNat bits.toNat))], 0)
  | .chars => return ([.string own], 0)
  | .counted =>
    let length := (← wholeOf p.little false own).toNat
    Args.check 2 "data string too short" (length ≤ b.length - item.size)
    return ([.string ((b.drop item.size).take length)], length)
  | .zeroEnded =>
    let text := b.takeWhile (· != 0)
    Args.check 2 "unfinished string for format 'z'" (text.length < b.length)
    return ([.string text], text.length + 1)
  | .padding | .align | .nothing => return ([], 0)

def unpackFrom (data : Bytes) (fuel : Nat) (p : Packing) (place : Nat) (format : Bytes) :
    Args.Result (List Value) :=
  match fuel with
  | 0 => .ok [.int (place + 1)]
  | fuel + 1 => do
    if format.isEmpty then return [.int (place + 1)]
    let (p, item, rest) ← packItem p place format
    Args.check 2 "data string too short" (place + item.fill + item.size ≤ data.length)
    let place := place + item.fill
    let (values, extra) ← unpackValue p item (data.drop place)
    return values ++ (← unpackFrom data fuel p (place + item.size + extra) rest)

def onUnpack (args : Args) : Native (List Value) := do
  let format := (← args.bytes 1).takeWhile (· != 0)
  let data ← args.bytes 2
  let start := rangeStart data.length (← args.intOr 3 1) - 1
  Args.check 3 "initial position out of string" (start ≤ data.length)
  return ← unpackFrom data (format.length + 1) .native start format

end SchemaForge.Script.Library
