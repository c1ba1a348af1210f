import SchemaForge.Text.CaseTable

/-! Capitals and small letters of any script. -/

namespace SchemaForge.Text

def shiftBy (runs : List CaseRun) (c : Char) : Char :=
  match runs.find? (·.holds c.toNat) with
  | some run => Char.ofNat ((c.toNat : Int) + run.shift).toNat
  | none => c

def upperChar (c : Char) : List Char :=
  if c.toNat < 128 then [c.toUpper]
  else
    match upperExpansions.lookup c.toNat with
    | some codes => codes.map Char.ofNat
    | none => [shiftBy upperRuns c]

/-- The small form of a letter; only the capital I with a dot becomes two characters. -/
def lowerChar (c : Char) : List Char :=
  if c.toNat < 128 then [c.toLower]
  else if c.toNat = 0x130 then ['i', '\u0307']
  else [shiftBy lowerRuns c]

def isCased (c : Char) : Bool := upperChar c != [c] || lowerChar c != [c]

def isCaseIgnorable (c : Char) : Bool :=
  let n := c.toNat
  c == '\'' || c == '.' || c == ':' || c == '^' || c == '\x60' || n == 0xAD || n == 0xB7 ||
    (0x300 ≤ n && n ≤ 0x36F) || n == 0x2019

def lowerFrom (before : List Char) : List Char → List Char
  | [] => []
  | c :: rest =>
    let small :=
      if c.toNat = 0x3A3 then
        let opened := ((before.dropWhile isCaseIgnorable).head?.map isCased).getD false
        let goesOn := ((rest.dropWhile isCaseIgnorable).head?.map isCased).getD false
        if opened && !goesOn then ['\u03C2'] else ['\u03C3']
      else lowerChar c
    small ++ lowerFrom (c :: before) rest

def lower (s : String) : String := String.ofList (lowerFrom [] s.toList)

def upper (s : String) : String := String.ofList (s.toList.flatMap upperChar)

def asciiLower (s : String) : String := s.map Char.toLower

end SchemaForge.Text
