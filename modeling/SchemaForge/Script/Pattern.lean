import SchemaForge.Script.Value

/-! Patterns over bytes: classes, sets, repetitions, captures, balanced pairs and frontiers. -/

namespace SchemaForge.Script.Pattern

open Text.Utf8 (Bytes)

inductive Capture where
  | unfinished (start : Nat)
  | span (start length : Nat)
  | place (index : Nat)
  deriving Inhabited

abbrev Captures := List Capture

/-- The outcome of matching: where the match ends, or why the pattern is no pattern. -/
abbrev Outcome := Except String (Option (Nat × Captures))

def byteAt (b : Array UInt8) (i : Nat) : Char := Char.ofNat ((b[i]?.getD 0).toNat)

def isPunct (c : Char) : Bool :=
  33 ≤ c.toNat && c.toNat ≤ 126 && !c.isAlphanum

def inClass (c letter : Char) : Bool :=
  let base := letter.toLower
  let known : Option Bool :=
    if base == 'a' then some c.isAlpha
    else if base == 'c' then some (c.toNat < 32 || c.toNat == 127)
    else if base == 'd' then some c.isDigit
    else if base == 'g' then some (33 ≤ c.toNat && c.toNat ≤ 126)
    else if base == 'l' then some c.isLower
    else if base == 'p' then some (isPunct c)
    else if base == 's' then some (Numeric.isSpace c)
    else if base == 'u' then some c.isUpper
    else if base == 'w' then some c.isAlphanum
    else if base == 'x' then some (Numeric.hexValue? c).isSome
    else none
  match known with
  | some b => if letter.isUpper then !b else b
  | none => letter == c

/-- The end of a set whose items start at `p`; the first of them may be a closing bracket. -/
def setEnd (pat : Array UInt8) (fuel p : Nat) (first : Bool) : Except String Nat :=
  match fuel with
  | 0 => .error "malformed pattern (missing ']')"
  | fuel + 1 =>
    if pat.size ≤ p then .error "malformed pattern (missing ']')"
    else if byteAt pat p == ']' && !first then .ok (p + 1)
    else if byteAt pat p == '%' then setEnd pat fuel (p + 2) false
    else setEnd pat fuel (p + 1) false

def itemEnd (pat : Array UInt8) (p : Nat) : Except String Nat :=
  if byteAt pat p == '%' then
    if pat.size ≤ p + 1 then .error "malformed pattern (ends with '%')" else .ok (p + 2)
  else if byteAt pat p == '[' then
    let start := if byteAt pat (p + 1) == '^' then p + 2 else p + 1
    setEnd pat (pat.size + 1) start true
  else .ok (p + 1)

def inSetItems (pat : Array UInt8) (c : Char) (fuel p last : Nat) : Bool :=
  match fuel with
  | 0 => false
  | fuel + 1 =>
    if last ≤ p then false
    else if byteAt pat p == '%' then
      inClass c (byteAt pat (p + 1)) || inSetItems pat c fuel (p + 2) last
    else if byteAt pat (p + 1) == '-' && p + 2 < last then
      (byteAt pat p ≤ c && c ≤ byteAt pat (p + 2)) || inSetItems pat c fuel (p + 3) last
    else byteAt pat p == c || inSetItems pat c fuel (p + 1) last

/-- Whether a byte is in the set from `p` up to its closing bracket at `last`. -/
def inSet (pat : Array UInt8) (c : Char) (p last : Nat) : Bool :=
  let inverted := byteAt pat (p + 1) == '^'
  let start := if inverted then p + 2 else p + 1
  inSetItems pat c (pat.size + 1) start last != inverted

def fits (src pat : Array UInt8) (s p e : Nat) : Bool :=
  if src.size ≤ s then false
  else
    let c := byteAt src s
    match byteAt pat p with
    | '.' => true
    | '%' => inClass c (byteAt pat (p + 1))
    | '[' => inSet pat c p (e - 1)
    | x => x == c

def balanced? (src : Array UInt8) (opens closes : Char) (fuel depth s : Nat) : Option Nat :=
  match fuel with
  | 0 => none
  | fuel + 1 =>
    if src.size ≤ s then none
    else
      let c := byteAt src s
      if c == closes then
        if depth = 1 then some (s + 1) else balanced? src opens closes fuel (depth - 1) (s + 1)
      else if c == opens then balanced? src opens closes fuel (depth + 1) (s + 1)
      else balanced? src opens closes fuel depth (s + 1)

def runLength (src pat : Array UInt8) (p e fuel s : Nat) : Nat :=
  match fuel with
  | 0 => 0
  | fuel + 1 => if fits src pat s p e then runLength src pat p e fuel (s + 1) + 1 else 0

def closeLast (s : Nat) : Captures → Option Captures
  | [] => none
  | .unfinished start :: rest =>
    match closeLast s rest with
    | some rest => some (.unfinished start :: rest)
    | none => some (.span start (s - start) :: rest)
  | c :: rest => (closeLast s rest).map (c :: ·)

def spanText (src : Array UInt8) (start length : Nat) : Bytes :=
  (src.extract start (start + length)).toList

def longest (attempt : Nat → Outcome) : Nat → Outcome
  | 0 => attempt 0
  | n + 1 =>
    match attempt (n + 1) with
    | .ok none => longest attempt n
    | done => done

def shortest (attempt : Nat → Outcome) (n : Nat) : Nat → Outcome
  | 0 => attempt n
  | left + 1 =>
    match attempt n with
    | .ok none => shortest attempt (n + 1) left
    | done => done

/-- Match the single item at `p` with the repetition behind it; `next` matches what follows. -/
def matchItem (src pat : Array UInt8) (next : Nat → Nat → Outcome) (s p : Nat) : Outcome :=
  match itemEnd pat p with
  | .error e => .error e
  | .ok e =>
    let run := runLength src pat p e (src.size + 1) s
    match byteAt pat e with
    | '?' => longest (fun n => next (s + n) (e + 1)) (min run 1)
    | '+' => if run = 0 then .ok none else longest (fun n => next (s + 1 + n) (e + 1)) (run - 1)
    | '*' => longest (fun n => next (s + n) (e + 1)) run
    | '-' => shortest (fun n => next (s + n) (e + 1)) 0 run
    | _ => if run = 0 then .ok none else next (s + 1) e

def matchFrom (src pat : Array UInt8) (fuel s p : Nat) (caps : Captures) : Outcome :=
  match fuel with
  | 0 => .error "pattern too complex"
  | fuel + 1 =>
    let item (_ : Unit) : Outcome :=
      matchItem src pat (fun s p => matchFrom src pat fuel s p caps) s p
    if pat.size ≤ p then .ok (some (s, caps))
    else
      match byteAt pat p, byteAt pat (p + 1) with
      | '(', ')' => matchFrom src pat fuel s (p + 2) (caps ++ [.place s])
      | '(', _ => matchFrom src pat fuel s (p + 1) (caps ++ [.unfinished s])
      | ')', _ =>
        match closeLast s caps with
        | some caps => matchFrom src pat fuel s (p + 1) caps
        | none => .error "invalid pattern capture"
      | '$', _ =>
        if p + 1 = pat.size then .ok (if s = src.size then some (s, caps) else none) else item ()
      | '%', 'b' =>
        if pat.size < p + 4 then .error "malformed pattern (missing arguments to '%b')"
        else if src.size ≤ s || byteAt src s != byteAt pat (p + 2) then .ok none
        else
          match balanced? src (byteAt pat (p + 2)) (byteAt pat (p + 3)) (src.size + 1) 1 (s + 1) with
          | some e => matchFrom src pat fuel e (p + 4) caps
          | none => .ok none
      | '%', 'f' =>
        if byteAt pat (p + 2) != '[' then .error "missing '[' after '%f' in pattern"
        else
          match itemEnd pat (p + 2) with
          | .error e => .error e
          | .ok e =>
            let before := if s = 0 then '\x00' else byteAt src (s - 1)
            let here := byteAt src s
            if !inSet pat before (p + 2) (e - 1) && inSet pat here (p + 2) (e - 1) then
              matchFrom src pat fuel s e caps
            else .ok none
      | '%', c =>
        if c.isDigit then
          match if c == '0' then none else caps[c.toNat - 49]? with
          | some (.span start length) =>
            if spanText src s length == spanText src start length && s + length ≤ src.size then
              matchFrom src pat fuel (s + length) (p + 2) caps
            else .ok none
          | _ => .error ("invalid capture index %" ++ toString (c.toNat - 48))
        else item ()
      | _, _ => item ()

def search (src pat : Array UInt8) (anchored : Bool) (start fuel s : Nat) :
    Except String (Option (Nat × Nat × Captures)) :=
  match fuel with
  | 0 => .ok none
  | fuel + 1 =>
    match matchFrom src pat (2 * pat.size + src.size + 200) s start [] with
    | .error e => .error e
    | .ok (some (e, caps)) => .ok (some (s, e, caps))
    | .ok none => if anchored || src.size ≤ s then .ok none else search src pat anchored start fuel (s + 1)

/-- The first match of a pattern from byte `s` on: where it starts and ends, and its captures. -/
def find (src pat : Array UInt8) (s : Nat) : Except String (Option (Nat × Nat × Captures)) :=
  let anchored := byteAt pat 0 == '^' && 0 < pat.size
  search src pat anchored (if anchored then 1 else 0) (src.size + 2) s

def captureValue (src : Array UInt8) : Capture → Except String Value
  | .span start length => .ok (.string (spanText src start length))
  | .place p => .ok (.int (p + 1))
  | .unfinished _ => .error "unfinished capture"

def captureValues (src : Array UInt8) (s e : Nat) (caps : Captures) : Except String (List Value) :=
  if caps.isEmpty then .ok [.string (spanText src s (e - s))]
  else caps.mapM (captureValue src)

end SchemaForge.Script.Pattern
