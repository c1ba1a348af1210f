import SchemaForge.Script.Library.Strings

/-! Characters in strings: codes of up to 31 bits in up to six bytes. -/

namespace SchemaForge.Script.Library

open Text (Utf8.ofString)
open Text.Utf8 (Bytes)

def codeEnd : Nat := Word.signedEnd32

def codeBytes (code : Nat) : Bytes :=
  let rec behind (fuel code room : Nat) (after : Bytes) : Bytes :=
    match fuel with
    | 0 => after
    | fuel + 1 =>
      if code ≤ room then UInt8.ofNat ((254 - 2 * room) + code) :: after
      else behind fuel (code / 64) (room / 2) (UInt8.ofNat (128 + code % 64) :: after)
  if code < 128 then [UInt8.ofNat code]
  else behind 6 (code / 64) 31 [UInt8.ofNat (128 + code % 64)]

def isContinuation (b : Bytes) (i : Nat) : Bool :=
  match b[i]? with
  | some c => c &&& 0xC0 == 0x80
  | none => false

def leastCode (behind : Nat) : Nat :=
  match behind with
  | 1 => 0x80
  | 2 => 0x800
  | 3 => 0x10000
  | 4 => 0x200000
  | _ => 0x4000000

def codeAt? (strict : Bool) : Bytes → Option (Nat × Nat)
  | [] => some (0, 1)
  | c :: rest =>
    if c < 0x80 then some (c.toNat, 1)
    else
      let behind := if c < 0xC0 then 0 else if c < 0xE0 then 1 else if c < 0xF0 then 2
        else if c < 0xF8 then 3 else if c < 0xFC then 4 else if c < 0xFE then 5 else 6
      let code := (rest.take behind).foldl (fun n b => n * 64 + b.toNat % 64)
        (c.toNat % twoTo (6 - behind))
      if behind = 0 || 5 < behind || rest.length < behind ||
          !(rest.take behind).all (fun b => b &&& 0xC0 == 0x80) || code < leastCode behind then none
      else if strict && (0x10FFFF < code || (0xD800 ≤ code && code ≤ 0xDFFF)) then none
      else some (code, behind + 1)

def invalidCode : String := "invalid UTF-8 code"

def placeIn (length : Nat) (i : Int) : Int :=
  if 0 ≤ i then i else if (length : Int) < -i then 0 else length + i + 1

/-- The codes that start from place `i` on and before place `last`, or the place where there is none. -/
def codesFrom (strict : Bool) (b : Bytes) (fuel i last : Nat) : Except Nat (List Nat) :=
  match fuel with
  | 0 => .ok []
  | fuel + 1 =>
    if last ≤ i then .ok []
    else
      match codeAt? strict (b.drop i) with
      | none => .error i
      | some (code, size) => (codesFrom strict b fuel (i + size) last).map (code :: ·)

def onCharacters (args : Args) : Native (List Value) := do
  let texts ← (List.range args.length).mapM fun n => do
    let code ← args.int (n + 1)
    Args.check (n + 1) "value out of range" (0 ≤ code && code < codeEnd)
    return codeBytes code.toNat
  return [.string texts.flatten]

def onCodepoint (args : Args) : Native (List Value) := do
  let b ← args.bytes 1
  let first := placeIn b.length (← args.intOr 2 1)
  let last := placeIn b.length (← args.intOr 3 first)
  Args.check 2 "out of bounds" (1 ≤ first)
  Args.check 3 "out of bounds" (last ≤ b.length)
  if last < first then return []
  match codesFrom (!(args.get 4).truthy) b b.length (first.toNat - 1) last.toNat with
  | .ok codes => return codes.map fun (code : Nat) => .int code
  | .error _ => Native.message invalidCode

def onCodeCount (args : Args) : Native (List Value) := do
  let b ← args.bytes 1
  let first := placeIn b.length (← args.intOr 2 1)
  let last := placeIn b.length (← args.intOr 3 (-1))
  Args.check 2 "initial position out of bounds" (1 ≤ first && first ≤ b.length + 1)
  Args.check 3 "final position out of bounds" (last ≤ b.length)
  match codesFrom (!(args.get 4).truthy) b b.length (first.toNat - 1) last.toNat with
  | .ok codes => return [.int codes.length]
  | .error i => return [.nil, .int (i + 1)]

def skipContinuation (b : Bytes) (fuel i : Nat) : Nat :=
  match fuel with
  | 0 => i
  | fuel + 1 => if isContinuation b i then skipContinuation b fuel (i + 1) else i

def backContinuation (b : Bytes) : Nat → Nat
  | 0 => 0
  | i + 1 => if isContinuation b (i + 1) then backContinuation b i else i + 1

def forward (b : Bytes) (n i : Nat) : Option Nat :=
  match n with
  | 0 => some i
  | n + 1 => if i < b.length then forward b n (skipContinuation b b.length (i + 1)) else none

def backward (b : Bytes) (n i : Nat) : Option Nat :=
  match n with
  | 0 => some i
  | n + 1 => if 0 < i then backward b n (backContinuation b (i - 1)) else none

def onCharacterOffset (args : Args) : Native (List Value) := do
  let b ← args.bytes 1
  let n ← args.int 2
  let i := placeIn b.length (← args.intOr 3 (if 0 < n then 1 else b.length + 1))
  Args.check 3 "position out of bounds" (1 ≤ i && i ≤ b.length + 1)
  let i := i.toNat - 1
  if n = 0 then return [.int (backContinuation b i + 1)]
  if isContinuation b i then Native.message "initial position is a continuation byte"
  let found := if n < 0 then backward b (-n).toNat i else forward b (n.toNat - 1) i
  return [(found.map fun i => Value.int (i + 1)).getD .nil]

def onCodes (args : Args) : Native (List Value) := do
  let b ← args.bytes 1
  Args.check 1 invalidCode (!isContinuation b 0)
  return [.builtin (.utf8CodesStep (args.get 2).truthy), args.get 1, .int 0]

def onCodesStep (lax : Bool) (args : Args) : Native (List Value) := do
  let b ← args.bytes 1
  let last := match (args.get 2).toNumber?.bind Numeric.toInt? with
    | some i => i.toUInt64.toNat
    | none => 0
  let i := if last < b.length then skipContinuation b b.length last else last
  if b.length ≤ i then return []
  match codeAt? (!lax) (b.drop i) with
  | some (code, size) =>
    if isContinuation b (i + size) then Native.message invalidCode
    return [.int (i + 1), .int code]
  | none => Native.message invalidCode

def characterPattern : Bytes :=
  [91, 0, 45, 127] ++ [0xC2, 45, 0xFD, 93, 91, 0x80, 45, 0xBF, 93, 42]

end SchemaForge.Script.Library
