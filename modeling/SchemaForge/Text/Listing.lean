/-! Texts as they appear in listings of values: between quotes, with marks for what does not show. -/

namespace SchemaForge.Text

def hexDigits (n : Nat) : List Char := Nat.toDigits 16 n

def isHidden (c : Char) : Bool :=
  let n := c.toNat
  n < 0x20 || (0x7F ≤ n && n < 0xA0) || n == 0xAD || (0x300 ≤ n && n ≤ 0x36F) ||
    (0x200B ≤ n && n ≤ 0x200F) || (0x2028 ≤ n && n ≤ 0x202E) || (0x2060 ≤ n && n ≤ 0x206F) ||
    (0xE000 ≤ n && n ≤ 0xF8FF) || n == 0xFEFF || (0xFFF9 ≤ n && n ≤ 0xFFFB) || 0xE0000 ≤ n

def listedChar (c : Char) : List Char :=
  if c == '"' then ['\\', '"']
  else if c == '\\' then ['\\', '\\']
  else if c == '\n' then ['\\', 'n']
  else if c == '\r' then ['\\', 'r']
  else if c == '\t' then ['\\', 't']
  else if c == '\x00' then ['\\', '0']
  else if isHidden c then ['\\', 'u', '\x7b'] ++ hexDigits c.toNat ++ ['\x7d']
  else [c]

def listed (s : String) : String := String.ofList ('"' :: s.toList.flatMap listedChar ++ ['"'])

end SchemaForge.Text
