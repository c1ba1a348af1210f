import SchemaForge.Script.Number

/-! The words of a script. -/

namespace SchemaForge.Script

open Text (Utf8.encode)
open Text.Utf8 (Bytes)

inductive Token where
  | name (text : String)
  | keyword (text : String)
  | symbol (text : String)
  | string (bytes : Bytes)
  | number (value : Numeric)
  deriving Inhabited, Repr

structure Lexeme where
  token : Token
  line : Nat
  deriving Inhabited, Repr

namespace Token

structure Rest where
  chars : List Char
  line : Nat

def keywords : List String :=
  ["and", "break", "do", "else", "elseif", "end", "false", "for", "function", "goto", "if", "in",
    "local", "nil", "not", "or", "repeat", "return", "then", "true", "until", "while"]

def symbols : List String :=
  ["...", "<<", ">>", "//", "==", "~=", "<=", ">=", "::", "..", "+", "-", "*", "/", "%", "^", "#",
    "&", "~", "|", "<", ">", "=", "(", ")", "\x7b", "\x7d", "[", "]", ";", ":", ",", "."]

def isNameStart (c : Char) : Bool := c.isAlpha || c == '_'

def isNameChar (c : Char) : Bool := c.isAlphanum || c == '_'

def isNewline (c : Char) : Bool := c == '\n' || c == '\r'

def dropNewline : List Char → List Char
  | '\n' :: '\r' :: rest => rest
  | '\r' :: '\n' :: rest => rest
  | _ :: rest => rest
  | [] => []

def longOpen? : List Char → Option (Nat × List Char)
  | '[' :: rest =>
    let level := (rest.takeWhile (· == '=')).length
    match rest.drop level with
    | '[' :: rest => some (level, rest)
    | _ => none
  | _ => none

def longClose (level : Nat) : List Char := ']' :: List.replicate level '=' ++ [']']

/-- The text up to a long closing bracket. Every line end counts as one newline. -/
def longText? (fuel : Nat) (level : Nat) (before : List Char) (r : Rest) :
    Option (List Char × Rest) :=
  match fuel with
  | 0 => none
  | fuel + 1 =>
    if (longClose level).isPrefixOf r.chars then
      some (before.reverse, ⟨r.chars.drop (level + 2), r.line⟩)
    else
      match r.chars with
      | [] => none
      | c :: rest =>
        if isNewline c then longText? fuel level ('\n' :: before) ⟨dropNewline r.chars, r.line + 1⟩
        else longText? fuel level (c :: before) ⟨rest, r.line⟩

def longString? (level : Nat) (r : Rest) : Option (List Char × Rest) :=
  let start : Rest := match r.chars with
    | c :: _ => if isNewline c then ⟨dropNewline r.chars, r.line + 1⟩ else r
    | [] => r
  longText? (start.chars.length + 1) level [] start

def skipBlanks (fuel : Nat) (r : Rest) : Rest :=
  match fuel with
  | 0 => r
  | fuel + 1 =>
    match r.chars with
    | [] => r
    | c :: rest =>
      if isNewline c then skipBlanks fuel ⟨dropNewline r.chars, r.line + 1⟩
      else if Numeric.isSpace c then skipBlanks fuel ⟨rest, r.line⟩
      else r

/-- The bytes of a code point below the end of the signed words of 32 bits, by the rule of UTF-8 carried on
to six bytes. -/
def codeBytes (n : Nat) : Bytes :=
  let low (k : Nat) : UInt8 := UInt8.ofNat (0x80 + n / Nat.pow 64 k % 64)
  if n < 0x80 then [UInt8.ofNat n]
  else if n < 0x800 then [UInt8.ofNat (0xC0 + n / 64), low 0]
  else if n < 0x10000 then [UInt8.ofNat (0xE0 + n / Nat.pow 64 2), low 1, low 0]
  else if n < 0x200000 then [UInt8.ofNat (0xF0 + n / Nat.pow 64 3), low 2, low 1, low 0]
  else if n < 0x4000000 then [UInt8.ofNat (0xF8 + n / Nat.pow 64 4), low 3, low 2, low 1, low 0]
  else [UInt8.ofNat (0xFC + n / Nat.pow 64 5), low 4, low 3, low 2, low 1, low 0]

def escape? (fuel : Nat) (r : Rest) : Option (Bytes × Rest) :=
  match r.chars with
  | [] => none
  | c :: rest =>
    let one (b : UInt8) : Option (Bytes × Rest) := some ([b], ⟨rest, r.line⟩)
    if c == 'n' then one 10
    else if c == 'a' then one 7
    else if c == 'b' then one 8
    else if c == 't' then one 9
    else if c == 'r' then one 13
    else if c == 'f' then one 12
    else if c == 'v' then one 11
    else if c == '\\' || c == '"' || c == '\'' then one (UInt8.ofNat c.toNat)
    else if isNewline c then some ([10], ⟨dropNewline r.chars, r.line + 1⟩)
    else if c == 'x' then
      match rest with
      | h :: l :: rest =>
        match Numeric.hexValue? h, Numeric.hexValue? l with
        | some h, some l => some ([UInt8.ofNat (h * 16 + l)], ⟨rest, r.line⟩)
        | _, _ => none
      | _ => none
    else if c == 'z' then some ([], skipBlanks fuel ⟨rest, r.line⟩)
    else if c == 'u' then
      match rest with
      | '\x7b' :: rest =>
        let digits := rest.takeWhile fun c => (Numeric.hexValue? c).isSome
        let n := Numeric.hexDigitsValue digits
        match rest.drop digits.length with
        | '\x7d' :: rest =>
          if digits.isEmpty || Word.signedEnd32 ≤ n then none else some (codeBytes n, ⟨rest, r.line⟩)
        | _ => none
      | _ => none
    else if c.isDigit then
      let digits := ((c :: rest).take 3).takeWhile Char.isDigit
      let n := Numeric.digitsValue digits
      if n ≤ 255 then some ([UInt8.ofNat n], ⟨(c :: rest).drop digits.length, r.line⟩) else none
    else none

def quoted? (fuel : Nat) (quote : Char) (before : Bytes) (r : Rest) : Option (Bytes × Rest) :=
  match fuel with
  | 0 => none
  | fuel + 1 =>
    match r.chars with
    | [] => none
    | c :: rest =>
      if c == quote then some (before.reverse, ⟨rest, r.line⟩)
      else if isNewline c then none
      else if c == '\\' then
        match escape? fuel ⟨rest, r.line⟩ with
        | some (bytes, r) => quoted? fuel quote (bytes.reverse ++ before) r
        | none => none
      else quoted? fuel quote ((Utf8.encode [c]).reverse ++ before) ⟨rest, r.line⟩

def numeralLength (fuel : Nat) (hex : Bool) (n : Nat) : List Char → Nat
  | [] => n
  | c :: rest =>
    match fuel with
    | 0 => n
    | fuel + 1 =>
      let mark := if hex then c == 'p' || c == 'P' else c == 'e' || c == 'E'
      match rest with
      | s :: tail =>
        if mark && (s == '+' || s == '-') then numeralLength fuel hex (n + 2) tail
        else if isNameChar c || c == '.' then numeralLength fuel hex (n + 1) rest
        else n
      | [] => if isNameChar c || c == '.' then n + 1 else n

def number? (r : Rest) : Option (Numeric × Rest) :=
  let hex := match r.chars with
    | '0' :: x :: _ => x == 'x' || x == 'X'
    | _ => false
  let n := numeralLength (r.chars.length + 1) hex 0 r.chars
  (Numeric.numeral? false (r.chars.take n)).map fun v => (v, ⟨r.chars.drop n, r.line⟩)

def lineComment (cs : List Char) : List Char := cs.dropWhile fun c => !isNewline c

/-- The next token; none of it at the end of the text, and nothing at a malformed place. -/
def next? (fuel : Nat) (r : Rest) : Option (Option Lexeme × Rest) :=
  match fuel with
  | 0 => none
  | fuel + 1 =>
    match r.chars with
    | [] => some (none, r)
    | c :: rest =>
      if isNewline c then next? fuel ⟨dropNewline r.chars, r.line + 1⟩
      else if Numeric.isSpace c then next? fuel ⟨rest, r.line⟩
      else if isNameStart c then
        let text := String.ofList (r.chars.takeWhile isNameChar)
        let token := if keywords.contains text then Token.keyword text else .name text
        some (some ⟨token, r.line⟩, ⟨r.chars.dropWhile isNameChar, r.line⟩)
      else if c.isDigit || (c == '.' && (rest.head?.map Char.isDigit).getD false) then
        (number? r).map fun (v, r) => (some ⟨.number v, r.line⟩, r)
      else if c == '"' || c == '\'' then
        (quoted? fuel c [] ⟨rest, r.line⟩).map fun (bytes, r) => (some ⟨.string bytes, r.line⟩, r)
      else
        match c, rest with
        | '-', '-' :: rest =>
          match longOpen? rest with
          | some (level, rest) =>
            match longString? level ⟨rest, r.line⟩ with
            | some (_, r) => next? fuel r
            | none => none
          | none => next? fuel ⟨lineComment rest, r.line⟩
        | _, _ =>
          match longOpen? r.chars with
          | some (level, rest) =>
            (longString? level ⟨rest, r.line⟩).map fun (text, r) =>
              (some ⟨.string (Utf8.encode text), r.line⟩, r)
          | none =>
            if ("[=".toList).isPrefixOf r.chars then none
            else
              match symbols.find? fun s => s.toList.isPrefixOf r.chars with
              | some s => some (some ⟨.symbol s, r.line⟩, ⟨r.chars.drop s.length, r.line⟩)
              | none => none

def allFrom (fuel : Nat) (before : List Lexeme) (r : Rest) : Option (List Lexeme × Nat) :=
  match fuel with
  | 0 => none
  | fuel + 1 =>
    match next? (r.chars.length + 1) r with
    | some (some lexeme, r) => allFrom fuel (lexeme :: before) r
    | some (none, r) => some (before.reverse, r.line)
    | none => none

/-- The tokens of a script and its last line; nothing if a token is malformed. -/
def all? (source : String) : Option (List Lexeme × Nat) :=
  allFrom (source.length + 1) [] ⟨source.toList, 1⟩

end Token

end SchemaForge.Script
