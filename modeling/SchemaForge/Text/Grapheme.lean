import SchemaForge.Text.MarkTable

/-! Characters as readers count them: a letter with its marks, a syllable of Hangul, a flag, a line
end of two characters. -/

namespace SchemaForge.Text

inductive Hangul where
  | lead
  | vowel
  | tail
  | open
  | closed
  deriving DecidableEq

def hangul? (c : Char) : Option Hangul :=
  let n := c.toNat
  if (0x1100 ≤ n && n ≤ 0x115F) || (0xA960 ≤ n && n ≤ 0xA97C) then some .lead
  else if (0x1160 ≤ n && n ≤ 0x11A7) || (0xD7B0 ≤ n && n ≤ 0xD7C6) then some .vowel
  else if (0x11A8 ≤ n && n ≤ 0x11FF) || (0xD7CB ≤ n && n ≤ 0xD7FB) then some .tail
  else if 0xAC00 ≤ n && n ≤ 0xD7A3 then if (n - 0xAC00) % 28 = 0 then some .open else some .closed
  else none

def hangulJoins : Hangul → Hangul → Bool
  | .lead, .tail => false
  | .lead, _ => true
  | .open, .vowel => true
  | .open, .tail => true
  | .vowel, .vowel => true
  | .vowel, .tail => true
  | .closed, .tail => true
  | .tail, .tail => true
  | _, _ => false

def isRegional (c : Char) : Bool := 0x1F1E6 ≤ c.toNat && c.toNat ≤ 0x1F1FF

def isControl (c : Char) : Bool :=
  let n := c.toNat
  n < 0x20 || (0x7F ≤ n && n < 0xA0) || n == 0xAD || n == 0x200B || n == 0x200E || n == 0x200F ||
    (0x2028 ≤ n && n ≤ 0x202E) || (0x2060 ≤ n && n ≤ 0x206F) || n == 0xFEFF

def isPicture (c : Char) : Bool :=
  let n := c.toNat
  (0x2600 ≤ n && n ≤ 0x27BF) || (0x1F300 ≤ n && n ≤ 0x1FAFF) || n == 0x2B50 || n == 0x2B55

/-- Whether a character goes with the one before it, of which `flags` regional letters stand in
its group. -/
def attaches (flags : Nat) (before c : Char) : Bool :=
  if before == '\r' && c == '\n' then true
  else if isControl before || isControl c then false
  else if isMark c then true
  else if before == '\u200d' && isPicture c then true
  else if isRegional before && isRegional c then flags % 2 == 1
  else
    match hangul? before, hangul? c with
    | some a, some b => hangulJoins a b
    | _, _ => false

def groupFrom (flags : Nat) (group : List Char) : List Char → List String
  | [] => if group.isEmpty then [] else [String.ofList group.reverse]
  | c :: rest =>
    let flag := if isRegional c then 1 else 0
    match group with
    | [] => groupFrom flag [c] rest
    | before :: _ =>
      if attaches flags before c then groupFrom (flags + flag) (c :: group) rest
      else String.ofList group.reverse :: groupFrom flag [c] rest

def graphemes (s : String) : List String := groupFrom 0 [] s.toList

end SchemaForge.Text
