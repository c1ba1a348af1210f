import SchemaForge.Json.Value
import SchemaForge.Text.Utf8
import SchemaForge.Word

/-! Reading JSON text. Every reading step hands on a strictly shorter rest, so reading ends with the
text; lists and objects may nest 127 deep. A fault remembers how many bytes were left where it was
noticed, from which its line and its column in bytes follow. -/

namespace SchemaForge.Json

open Text.Utf8 (Bytes)

inductive Cause where
  | endInList
  | endInObject
  | endInString
  | endInValue
  | expectedColon
  | expectedListEnd
  | expectedObjectEnd
  | expectedWord
  | expectedValue
  | badEscape
  | badNumber
  | numberTooLarge
  | badCodePoint
  | controlCharacter
  | keyNotString
  | loneSurrogate
  | trailingComma
  | trailingCharacters
  | cutSurrogatePair
  | nestedTooDeep
  deriving DecidableEq, Repr, Inhabited

def Cause.message : Cause → String
  | .endInList => "EOF while parsing a list"
  | .endInObject => "EOF while parsing an object"
  | .endInString => "EOF while parsing a string"
  | .endInValue => "EOF while parsing a value"
  | .expectedColon => "expected `:`"
  | .expectedListEnd => "expected `,` or `]`"
  | .expectedObjectEnd => "expected `,` or `\x7d`"
  | .expectedWord => "expected ident"
  | .expectedValue => "expected value"
  | .badEscape => "invalid escape"
  | .badNumber => "invalid number"
  | .numberTooLarge => "number out of range"
  | .badCodePoint => "invalid unicode code point"
  | .controlCharacter => "control character (\\u0000-\\u001F) found while parsing a string"
  | .keyNotString => "key must be a string"
  | .loneSurrogate => "lone leading surrogate in hex escape"
  | .trailingComma => "trailing comma"
  | .trailingCharacters => "trailing characters"
  | .cutSurrogatePair => "unexpected end of hex escape"
  | .nestedTooDeep => "recursion limit exceeded"

structure Fault where
  cause : Cause
  /-- How many bytes follow the place of the fault. -/
  remaining : Nat
  deriving DecidableEq, Repr, Inhabited

def Fault.behind (cause : Cause) (rest : Bytes) : Fault := ⟨cause, rest.length⟩

/-- A fault noticed on looking at the first byte of `rest`, which counts as read. -/
def Fault.upon (cause : Cause) (rest : Bytes) : Fault := ⟨cause, rest.length - 1⟩

abbrev Shorter (s : Bytes) := { r : Bytes // r.length < s.length }
abbrev NoLonger (s : Bytes) := { r : Bytes // r.length ≤ s.length }

def byte (c : Char) : UInt8 := c.toNat.toUInt8

def isBlankByte (b : UInt8) : Bool := b == 0x20 || b == 0x0A || b == 0x09 || b == 0x0D

def isDigitByte (b : UInt8) : Bool := 0x30 ≤ b && b ≤ 0x39

def digitValue (b : UInt8) : Nat := b.toNat - 48

def skipBlanks : (s : Bytes) → NoLonger s
  | [] => ⟨[], Nat.le_refl _⟩
  | b :: s =>
    if isBlankByte b then
      let ⟨r, h⟩ := skipBlanks s
      ⟨r, Nat.le_succ_of_le h⟩
    else ⟨b :: s, Nat.le_refl _⟩

/-- Read digits into a significand of 64 bits; digits that no longer fit are counted. -/
def wholeDigits (significand : Nat) (full : Bool) (dropped : Nat) :
    (s : Bytes) → Nat × Nat × NoLonger s
  | [] => (significand, dropped, ⟨[], Nat.le_refl _⟩)
  | b :: s =>
    if isDigitByte b then
      let next := significand * 10 + digitValue b
      if full || Word.unsignedEnd ≤ next then
        let (m, d, ⟨r, h⟩) := wholeDigits significand true (dropped + 1) s
        (m, d, ⟨r, Nat.le_succ_of_le h⟩)
      else
        let (m, d, ⟨r, h⟩) := wholeDigits next false dropped s
        (m, d, ⟨r, Nat.le_succ_of_le h⟩)
    else (significand, dropped, ⟨b :: s, Nat.le_refl _⟩)

/-- Read digits behind the point into a significand; digits that no longer fit are dropped.
The second answer counts the digits taken. -/
def pointDigits (significand : Nat) (full : Bool) (taken : Nat) :
    (s : Bytes) → Nat × Nat × NoLonger s
  | [] => (significand, taken, ⟨[], Nat.le_refl _⟩)
  | b :: s =>
    if isDigitByte b then
      let next := significand * 10 + digitValue b
      if full || Word.unsignedEnd ≤ next then
        let (m, d, ⟨r, h⟩) := pointDigits significand true taken s
        (m, d, ⟨r, Nat.le_succ_of_le h⟩)
      else
        let (m, d, ⟨r, h⟩) := pointDigits next false (taken + 1) s
        (m, d, ⟨r, Nat.le_succ_of_le h⟩)
    else (significand, taken, ⟨b :: s, Nat.le_refl _⟩)

/-- Read the digits of an exponent. The second answer is the rest behind the digit with which the
exponent outgrew 31 bits. -/
def exponentDigits (value : Nat) (outgrown : Option Bytes) :
    (s : Bytes) → Nat × Option Bytes × NoLonger s
  | [] => (value, outgrown, ⟨[], Nat.le_refl _⟩)
  | b :: s =>
    if isDigitByte b then
      let next := value * 10 + digitValue b
      let outgrown := outgrown.or (if Word.signedEnd32 ≤ next then some s else none)
      let (e, o, ⟨r, h⟩) := exponentDigits next outgrown s
      (e, o, ⟨r, Nat.le_succ_of_le h⟩)
    else (value, outgrown, ⟨b :: s, Nat.le_refl _⟩)

def scaleFloat (significand : Float) (exponent : Int) : Option Float :=
  if 0 ≤ exponent then
    if exponent ≤ 308 then
      let x := significand * Float.ofScientific 1 false exponent.toNat
      if x.isInf then none else some x
    else if significand == 0.0 then some significand
    else none
  else if -308 ≤ exponent then some (significand / Float.ofScientific 1 false (-exponent).toNat)
  else if significand == 0.0 then some significand
  else if exponent < -616 then some 0.0
  else some (significand / 1e308 / Float.ofScientific 1 false (-exponent - 308).toNat)

def signedFloat (negative : Bool) (x : Float) : Number := .float (if negative then -x else x)

def floatNumber (negative : Bool) (significand : Nat) (exponent : Int) (rest : Bytes) :
    Except Fault Number :=
  match scaleFloat significand.toUInt64.toFloat exponent with
  | some x => .ok (signedFloat negative x)
  | none => .error (.behind .numberTooLarge rest)

def exponentPart (negative : Bool) (significand : Nat) (scale : Int) (s : Bytes) :
    Except Fault (Number × NoLonger s) :=
  let (down, ⟨s₁, h₁⟩) : Bool × NoLonger s := match s with
    | 0x2B :: r => (false, ⟨r, Nat.le_succ _⟩)
    | 0x2D :: r => (true, ⟨r, Nat.le_succ _⟩)
    | s => (false, ⟨s, Nat.le_refl _⟩)
  match s₁, h₁ with
  | [], _ => .error (.behind .endInValue [])
  | b :: s₂, h₁ =>
    if isDigitByte b then
      let (e, outgrown, ⟨r, hr⟩) := exponentDigits (digitValue b) none s₂
      have bound : r.length ≤ s.length := by
        simp only [List.length_cons] at h₁
        omega
      match outgrown with
      | some here =>
        if significand != 0 && !down then .error (.behind .numberTooLarge here)
        else .ok (signedFloat negative 0.0, ⟨r, bound⟩)
      | none => do
        let n ← floatNumber negative significand (scale + if down then -(e : Int) else e) r
        pure (n, ⟨r, bound⟩)
    else .error (.behind .badNumber s₂)

def numberTail (negative : Bool) (significand dropped : Nat) (s : Bytes) :
    Except Fault (Number × NoLonger s) :=
  match s with
  | 0x2E :: r =>
    let (m, taken, ⟨r₁, h₁⟩) := pointDigits significand false 0 r
    let scale : Int := (dropped : Int) - taken
    if r₁.length = r.length then
      .error (match r with
        | [] => .upon .endInValue []
        | _ => .upon .badNumber r)
    else
      match r₁, h₁ with
      | 0x65 :: r₂, h₁ | 0x45 :: r₂, h₁ => do
        let (n, ⟨r₃, h₃⟩) ← exponentPart negative m scale r₂
        pure (n, ⟨r₃, by simp only [List.length_cons] at h₁ ⊢; omega⟩)
      | r₁, h₁ => do
        let n ← floatNumber negative m scale r₁
        pure (n, ⟨r₁, by simp only [List.length_cons]; omega⟩)
  | 0x65 :: r | 0x45 :: r => do
    let (n, ⟨r₁, h₁⟩) ← exponentPart negative significand dropped r
    pure (n, ⟨r₁, by simp only [List.length_cons]; omega⟩)
  | s =>
    if dropped = 0 then
      if negative then
        if significand = 0 || Word.signedEnd < significand then
          .ok (signedFloat true significand.toUInt64.toFloat, ⟨s, Nat.le_refl _⟩)
        else .ok (.int (-(significand : Int)), ⟨s, Nat.le_refl _⟩)
      else .ok (.int significand, ⟨s, Nat.le_refl _⟩)
    else do
      let n ← floatNumber negative significand dropped s
      pure (n, ⟨s, Nat.le_refl _⟩)

def number (negative : Bool) (s : Bytes) : Except Fault (Number × Shorter s) :=
  match s with
  | [] => .error (.behind .endInValue [])
  | b :: r =>
    if b == 0x30 then
      match r with
      | [] => do
        let (n, ⟨r₁, h₁⟩) ← numberTail negative 0 0 []
        pure (n, ⟨r₁, Nat.lt_succ_of_le h₁⟩)
      | d :: r' =>
        if isDigitByte d then .error (.upon .badNumber (d :: r'))
        else do
          let (n, ⟨r₁, h₁⟩) ← numberTail negative 0 0 (d :: r')
          pure (n, ⟨r₁, Nat.lt_succ_of_le h₁⟩)
    else if isDigitByte b then
      let (m, dropped, ⟨r₁, h₁⟩) := wholeDigits (digitValue b) false 0 r
      do
        let (n, ⟨r₂, h₂⟩) ← numberTail negative m dropped r₁
        pure (n, ⟨r₂, by simp only [List.length_cons]; omega⟩)
    else .error (.behind .badNumber r)

def hexValue? (b : UInt8) : Option Nat :=
  if 0x30 ≤ b && b ≤ 0x39 then some (b.toNat - 48)
  else if 0x41 ≤ b && b ≤ 0x46 then some (b.toNat - 55)
  else if 0x61 ≤ b && b ≤ 0x66 then some (b.toNat - 87)
  else none

def hexUnit (s : Bytes) : Except Fault (Nat × Shorter s) :=
  match s with
  | a :: b :: c :: d :: r =>
    match hexValue? a, hexValue? b, hexValue? c, hexValue? d with
    | some a, some b, some c, some d =>
      .ok (((a * 16 + b) * 16 + c) * 16 + d, ⟨r, by simp only [List.length_cons]; omega⟩)
    | _, _, _, _ => .error (.behind .badEscape r)
  | _ => .error (.behind .endInString [])

/-- Read a code point written in one hexadecimal unit or as a surrogate pair, behind `\u`. -/
def unicodeEscape (s : Bytes) : Except Fault (Bytes × Shorter s) := do
  let (n, ⟨r, h⟩) ← hexUnit s
  if 0xDC00 ≤ n && n ≤ 0xDFFF then .error (.behind .loneSurrogate r)
  else if n < 0xD800 || 0xDBFF < n then
    pure (String.utf8EncodeChar (Char.ofNat n), ⟨r, h⟩)
  else
    match r, h with
    | [], _ => .error (.behind .endInString [])
    | b :: r₁, h =>
      if b != byte '\\' then .error (.behind .cutSurrogatePair r₁)
      else
        match r₁, h with
        | [], _ => .error (.behind .endInString [])
        | b₁ :: r₂, h =>
          if b₁ != byte 'u' then .error (.behind .cutSurrogatePair r₂)
          else do
            let (n₂, ⟨r₃, h₃⟩) ← hexUnit r₂
            if n₂ < 0xDC00 || 0xDFFF < n₂ then .error (.behind .loneSurrogate r₃)
            else
              pure (String.utf8EncodeChar
                  (Char.ofNat (0x10000 + (n - 0xD800) * 1024 + (n₂ - 0xDC00))),
                ⟨r₃, by simp only [List.length_cons] at h; omega⟩)

def escape (s : Bytes) : Except Fault (Bytes × Shorter s) :=
  match s with
  | [] => .error (.behind .endInString [])
  | b :: r =>
    let one (c : Char) : Except Fault (Bytes × Shorter (b :: r)) :=
      .ok ([byte c], ⟨r, Nat.lt_succ_self _⟩)
    if b == byte '"' then one '"'
    else if b == byte '\\' then one '\\'
    else if b == byte '/' then one '/'
    else if b == byte 'b' then one '\x08'
    else if b == byte 'f' then one '\x0c'
    else if b == byte 'n' then one '\n'
    else if b == byte 'r' then one '\r'
    else if b == byte 't' then one '\t'
    else if b == byte 'u' then do
      let (bytes, ⟨r₁, h₁⟩) ← unicodeEscape r
      pure (bytes, ⟨r₁, Nat.lt_succ_of_lt h₁⟩)
    else .error (.behind .badEscape r)

/-- Read the bytes of a string, behind its opening quote; those in front, reversed, are given. -/
def stringBytes (before : Bytes) (s : Bytes) : Except Fault (Bytes × Shorter s) :=
  match s with
  | [] => .error (.behind .endInString [])
  | b :: r =>
    if b == byte '"' then .ok (before.reverse, ⟨r, Nat.lt_succ_self _⟩)
    else if b == byte '\\' then do
      let (bytes, ⟨r₁, h₁⟩) ← escape r
      let (whole, ⟨r₂, h₂⟩) ← stringBytes (bytes.reverse ++ before) r₁
      pure (whole, ⟨r₂, by simp only [List.length_cons]; omega⟩)
    else if b < 0x20 then .error (.behind .controlCharacter r)
    else do
      let (whole, ⟨r₁, h₁⟩) ← stringBytes (b :: before) r
      pure (whole, ⟨r₁, Nat.lt_succ_of_lt h₁⟩)
termination_by s.length

def string (s : Bytes) : Except Fault (String × Shorter s) := do
  let (bytes, rest) ← stringBytes [] s
  match Text.Utf8.decode bytes with
  | .ok text => pure (text, rest)
  | .error _ => .error (.behind .badCodePoint rest.1)

def word (letters : List Char) (s : Bytes) : Except Fault (NoLonger s) :=
  match letters with
  | [] => .ok ⟨s, Nat.le_refl _⟩
  | c :: letters =>
    match s with
    | [] => .error (.behind .endInValue [])
    | b :: r =>
      if b == byte c then do
        let ⟨r₁, h₁⟩ ← word letters r
        pure ⟨r₁, Nat.le_succ_of_le h₁⟩
      else .error (.behind .expectedWord r)

mutual

/-- Read a value whose lists and objects may nest `depth` deep, blanks in front of it allowed. -/
def value (depth : Nat) (s : Bytes) : Except Fault (Value × Shorter s) :=
  match skipBlanks s with
  | ⟨[], _⟩ => .error (.upon .endInValue [])
  | ⟨b :: r, h⟩ => do
    have short {t : Bytes} (ht : t.length ≤ r.length) : t.length < s.length := by
      simp only [List.length_cons] at h
      omega
    if b == byte 'n' then
      let ⟨r₁, h₁⟩ ← word ['u', 'l', 'l'] r
      pure (.null, ⟨r₁, short h₁⟩)
    else if b == byte 't' then
      let ⟨r₁, h₁⟩ ← word ['r', 'u', 'e'] r
      pure (.bool true, ⟨r₁, short h₁⟩)
    else if b == byte 'f' then
      let ⟨r₁, h₁⟩ ← word ['a', 'l', 's', 'e'] r
      pure (.bool false, ⟨r₁, short h₁⟩)
    else if b == byte '-' then
      let (n, ⟨r₁, h₁⟩) ← number true r
      pure (.number n, ⟨r₁, short (Nat.le_of_lt h₁)⟩)
    else if isDigitByte b then
      let (n, ⟨r₁, h₁⟩) ← number false (b :: r)
      pure (.number n, ⟨r₁, short (Nat.le_of_lt_succ h₁)⟩)
    else if b == byte '"' then
      let (text, ⟨r₁, h₁⟩) ← string r
      pure (.string text, ⟨r₁, short (Nat.le_of_lt h₁)⟩)
    else if b == byte '[' then
      match depth with
      | 0 => .error (.upon .nestedTooDeep (b :: r))
      | depth + 1 =>
        match skipBlanks r with
        | ⟨[], _⟩ => .error (.upon .endInList [])
        | ⟨b₁ :: r₁, h₁⟩ =>
          if b₁ == byte ']' then
            pure (.array [], ⟨r₁, short (by simp only [List.length_cons] at h₁; omega)⟩)
          else
            let (items, ⟨r₂, h₂⟩) ← elements depth [] (b₁ :: r₁)
            pure (.array items, ⟨r₂, short (by omega)⟩)
    else if b == byte '\x7b' then
      match depth with
      | 0 => .error (.upon .nestedTooDeep (b :: r))
      | depth + 1 =>
        match skipBlanks r with
        | ⟨[], _⟩ => .error (.upon .endInObject [])
        | ⟨b₁ :: r₁, h₁⟩ =>
          if b₁ == byte '\x7d' then
            pure (.object [], ⟨r₁, short (by simp only [List.length_cons] at h₁; omega)⟩)
          else if b₁ == byte '"' then
            let (entries, ⟨r₂, h₂⟩) ← members depth [] r₁
            pure (.object entries, ⟨r₂, short (by simp only [List.length_cons] at h₁; omega)⟩)
          else .error (.upon .keyNotString (b₁ :: r₁))
    else .error (.upon .expectedValue (b :: r))
termination_by (depth, 0)

def elements (depth : Nat) (before : List Value) (s : Bytes) :
    Except Fault (List Value × Shorter s) := do
  let (v, ⟨r, h⟩) ← value depth s
  match skipBlanks r with
  | ⟨[], _⟩ => .error (.upon .endInList [])
  | ⟨b :: r₁, h₁⟩ =>
    if b == byte ']' then
      pure ((v :: before).reverse, ⟨r₁, by simp only [List.length_cons] at h₁; omega⟩)
    else if b == byte ',' then
      match skipBlanks r₁ with
      | ⟨[], _⟩ => .error (.upon .endInValue [])
      | ⟨b₁ :: r₂, h₂⟩ =>
        if b₁ == byte ']' then .error (.upon .trailingComma (b₁ :: r₂))
        else
          let (items, ⟨r₃, h₃⟩) ← elements depth (v :: before) (b₁ :: r₂)
          pure (items, ⟨r₃, by simp only [List.length_cons] at h₁ h₂ h₃; omega⟩)
    else .error (.upon .expectedListEnd (b :: r₁))
termination_by (depth, s.length + 1)
decreasing_by
  all_goals apply Prod.Lex.right
  · exact Nat.succ_pos _
  · simp only [List.length_cons] at *
    omega

/-- Read the entries of an object up to its end, behind the opening quote of a key; those in front
are given. A key that comes again gives the entry in its old place the new value. -/
def members (depth : Nat) (before : Object) (s : Bytes) : Except Fault (Object × Shorter s) := do
  let (key, ⟨r, h⟩) ← string s
  match skipBlanks r with
  | ⟨[], _⟩ => .error (.upon .endInObject [])
  | ⟨b :: r₁, h₁⟩ =>
    if b != byte ':' then .error (.upon .expectedColon (b :: r₁))
    else
      let (v, ⟨r₂, h₂⟩) ← value depth r₁
      match skipBlanks r₂ with
      | ⟨[], _⟩ => .error (.upon .endInObject [])
      | ⟨b₂ :: r₃, h₃⟩ =>
        if b₂ == byte '\x7d' then
          pure (before.insert key v, ⟨r₃, by simp only [List.length_cons] at h₁ h₃; omega⟩)
        else if b₂ == byte ',' then
          match skipBlanks r₃ with
          | ⟨[], _⟩ => .error (.upon .endInValue [])
          | ⟨b₃ :: r₄, h₄⟩ =>
            if b₃ == byte '"' then
              let (entries, ⟨r₅, h₅⟩) ← members depth (before.insert key v) r₄
              pure (entries, ⟨r₅, by simp only [List.length_cons] at h₁ h₃ h₄; omega⟩)
            else if b₃ == byte '\x7d' then .error (.upon .trailingComma (b₃ :: r₄))
            else .error (.upon .keyNotString (b₃ :: r₄))
        else .error (.upon .expectedObjectEnd (b₂ :: r₃))
termination_by (depth, s.length + 1)
decreasing_by
  all_goals apply Prod.Lex.right
  · exact Nat.succ_pos _
  · simp only [List.length_cons] at *
    omega

end

def depthLimit : Nat := 127

def readBytes (s : Bytes) : Except Fault Value := do
  let (v, ⟨r, _⟩) ← value depthLimit s
  match skipBlanks r with
  | ⟨[], _⟩ => pure v
  | ⟨b :: r, _⟩ => .error (.upon .trailingCharacters (b :: r))

/-- A line and a column, both counted from 1; column 0 stands in front of the first one. -/
structure Place where
  line : Nat
  column : Nat
  deriving DecidableEq, Repr, Inhabited

def Place.behind (bytes : Bytes) : Place :=
  ⟨1 + bytes.count 0x0A, (bytes.reverse.takeWhile (· != 0x0A)).length⟩

structure SyntaxError where
  cause : Cause
  place : Place
  deriving DecidableEq, Repr, Inhabited

def SyntaxError.message (e : SyntaxError) : String :=
  s!"{e.cause.message} at line {e.place.line} column {e.place.column}"

def read (text : String) : Except SyntaxError Value :=
  let bytes := Text.Utf8.ofString text
  match readBytes bytes with
  | .ok v => .ok v
  | .error fault =>
    .error ⟨fault.cause, .behind (bytes.take (bytes.length - fault.remaining))⟩

end SchemaForge.Json
