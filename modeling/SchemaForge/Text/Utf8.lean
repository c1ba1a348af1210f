/-! Bytes as text. `decode` reads UTF-8 and names the first fault by its byte index:
a sequence that no character starts with, or a sequence cut off by the end. -/

namespace SchemaForge.Text.Utf8

abbrev Bytes := List UInt8

def encode (cs : List Char) : Bytes := cs.flatMap String.utf8EncodeChar

def ofString (s : String) : Bytes := encode s.toList

inductive Fault where
  | invalid (length index : Nat)
  | incomplete (index : Nat)
  deriving DecidableEq, Repr, Inhabited

def Fault.message : Fault → String
  | .invalid length index => s!"invalid utf-8 sequence of {length} bytes from index {index}"
  | .incomplete index => s!"incomplete utf-8 byte sequence from index {index}"

def isContinuation (b : UInt8) : Bool := 0x80 ≤ b && b ≤ 0xBF

/-- Which second bytes may follow the first byte of a sequence of three. -/
def secondOfThree (first second : UInt8) : Bool :=
  if first == 0xE0 then 0xA0 ≤ second && second ≤ 0xBF
  else if first == 0xED then 0x80 ≤ second && second ≤ 0x9F
  else isContinuation second

def secondOfFour (first second : UInt8) : Bool :=
  if first == 0xF0 then 0x90 ≤ second && second ≤ 0xBF
  else if first == 0xF4 then 0x80 ≤ second && second ≤ 0x8F
  else isContinuation second

def low6 (b : UInt8) : Nat := b.toNat % 64

inductive Step where
  | char (c : Char) (length : Nat)
  | bad (length : Nat)
  | cut
  deriving Inhabited

def step (b : UInt8) (rest : Bytes) : Step :=
  if b < 0x80 then .char (Char.ofNat b.toNat) 1
  else if 0xC2 ≤ b && b ≤ 0xDF then
    match rest with
    | [] => .cut
    | b₁ :: _ =>
      if isContinuation b₁ then .char (Char.ofNat (b.toNat % 32 * 64 + low6 b₁)) 2 else .bad 1
  else if 0xE0 ≤ b && b ≤ 0xEF then
    match rest with
    | [] => .cut
    | b₁ :: rest₁ =>
      if secondOfThree b b₁ then
        match rest₁ with
        | [] => .cut
        | b₂ :: _ =>
          if isContinuation b₂ then
            .char (Char.ofNat ((b.toNat % 16 * 64 + low6 b₁) * 64 + low6 b₂)) 3
          else .bad 2
      else .bad 1
  else if 0xF0 ≤ b && b ≤ 0xF4 then
    match rest with
    | [] => .cut
    | b₁ :: rest₁ =>
      if secondOfFour b b₁ then
        match rest₁ with
        | [] => .cut
        | b₂ :: rest₂ =>
          if isContinuation b₂ then
            match rest₂ with
            | [] => .cut
            | b₃ :: _ =>
              if isContinuation b₃ then
                .char (Char.ofNat
                  (((b.toNat % 8 * 64 + low6 b₁) * 64 + low6 b₂) * 64 + low6 b₃)) 4
              else .bad 3
          else .bad 2
      else .bad 1
  else .bad 1

/-- Read from byte `index` on, in front of which the characters `before` (reversed) stand. -/
def decodeFrom (index : Nat) (before : List Char) : Bytes → Except Fault (List Char)
  | [] => .ok before.reverse
  | b :: rest =>
    match step b rest with
    | .char c length => decodeFrom (index + length) (c :: before) (rest.drop (length - 1))
    | .bad length => .error (.invalid length index)
    | .cut => .error (.incomplete index)
termination_by bytes => bytes.length
decreasing_by simp only [List.length_drop, List.length_cons]; omega

def decode (bytes : Bytes) : Except Fault String :=
  (decodeFrom 0 [] bytes).map String.ofList

def decodeLossyFrom (before : List Char) : Bytes → List Char
  | [] => before.reverse
  | b :: rest =>
    match step b rest with
    | .char c length => decodeLossyFrom (c :: before) (rest.drop (length - 1))
    | .bad length => decodeLossyFrom ('\uFFFD' :: before) (rest.drop (length - 1))
    | .cut => ('\uFFFD' :: before).reverse
termination_by bytes => bytes.length
decreasing_by all_goals (simp only [List.length_drop, List.length_cons]; omega)

def decodeLossy (bytes : Bytes) : String := String.ofList (decodeLossyFrom [] bytes)

end SchemaForge.Text.Utf8
