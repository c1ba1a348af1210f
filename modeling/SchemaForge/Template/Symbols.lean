import SchemaForge.Template.Basic
import SchemaForge.Word

/-! The symbols of templates. A reader takes a form off the front of a text or leaves it alone;
of two forms the first that can be read is taken, and it is not given back. -/

namespace SchemaForge.Template

abbrev Reader (α : Type) := StateT (List Char) Option α

namespace Reader

def isGap (c : Char) : Bool := c == ' ' || c == '\t' || c == '\r' || c == '\n'

def behind? : List Char → List Char → Option (List Char)
  | [], cs => some cs
  | _ :: _, [] => none
  | p :: ps, c :: cs => if p == c then behind? ps cs else none

def literal (s : String) : Reader Unit := fun cs => (behind? s.toList cs).map fun rest => ((), rest)

def gap : Reader Unit := modify (List.dropWhile isGap)

def wideGap : Reader Unit := fun cs =>
  match cs with
  | c :: rest => if isGap c then some ((), rest.dropWhile isGap) else none
  | [] => none

def symbol (s : String) : Reader Unit := do
  gap
  literal s

def keyword (s : String) : Reader Unit := do
  symbol s
  wideGap

def optional? {α : Type} (p : Reader α) : Reader (Option α) := (some <$> p) <|> pure none

def holds (p : Reader Unit) : Reader Bool := (do p; pure true) <|> pure false

def manyUpTo {α : Type} (p : Reader α) : Nat → Reader (List α)
  | 0 => pure []
  | n + 1 => (do
      let a ← p
      let rest ← manyUpTo p n
      pure (a :: rest)) <|> pure []

/-- As many forms as can be read one behind the other; each takes at least a character. -/
def many {α : Type} (p : Reader α) : Reader (List α) := do
  manyUpTo p (← get).length

def commaSeparated {α : Type} (p : Reader α) : Reader (List α) := do
  let first ← p
  let rest ← many do
    symbol ","
    p
  pure (first :: rest)

def isNameStart (c : Char) : Bool := c.isAlpha || c == '_'

def isNameChar (c : Char) : Bool := c.isAlphanum || c == '_'

def nameChars : Reader (List Char) := fun cs =>
  match cs.takeWhile isNameChar with
  | [] => none
  | name => some (name, cs.dropWhile isNameChar)

def exactName : Reader String := fun cs =>
  match cs with
  | c :: _ => if isNameStart c then (nameChars cs).map fun (n, rest) => (String.ofList n, rest)
    else none
  | [] => none

def name : Reader String := do
  gap
  exactName

def sign : Reader (List Char) := (do literal "-"; pure ['-']) <|> pure []

def digits : Reader (List Char) := fun cs =>
  match cs.takeWhile Char.isDigit with
  | [] => none
  | ds => some (ds, cs.dropWhile Char.isDigit)

def wholeDigits : Reader (List Char) := (do literal "0"; pure ['0']) <|> digits

def natOf (ds : List Char) : Nat := ds.foldl (fun n c => n * 10 + (c.toNat - 48)) 0

def intChars : Reader (List Char) := do
  let s ← sign
  let ds ← wholeDigits
  pure (s ++ ds)

def int : Reader Int := do
  gap
  let s ← sign
  let ds ← wholeDigits
  let n : Int := natOf ds
  let z := if s.isEmpty then n else -n
  if Word.isSigned z then pure z else failure

def float : Reader Float := do
  gap
  let s ← sign
  let whole ← wholeDigits
  literal "."
  let fraction ← digits
  let x := Float.ofScientific (natOf (whole ++ fraction)) true fraction.length
  pure (if s.isEmpty then x else -x)

/-- A text between two quotes of one of three kinds; there is no way to write its quote in it. -/
def quoted : Reader (List Char × Char) := fun cs =>
  match cs with
  | q :: rest =>
    if q == '"' || q == '\'' || q == '\x60' then
      match rest.dropWhile (· != q) with
      | _ :: behind => some ((rest.takeWhile (· != q), q), behind)
      | [] => none
    else none
  | [] => none

def string : Reader String := do
  gap
  let (cs, _) ← quoted
  pure (String.ofList cs)

/-- What selects a part of a variable. Its depth of brackets is limited. -/
def selector : Nat → Reader (List Char)
  | 0 => failure
  | depth + 1 => (do
      literal "."
      let n ← nameChars
      pure ('.' :: n)) <|> (do
      literal "["
      let index ← intChars <|> (do
        let (cs, q) ← quoted
        pure (q :: (cs ++ [q]))) <|> (do
        let n ← exactName
        let rest ← many (selector depth)
        pure (n.toList ++ rest.flatten))
      literal "]"
      pure ('[' :: (index ++ [']'])))

def path : Reader String := do
  gap
  let n ← exactName
  let depth := (← get).length
  let rest ← many (selector depth)
  pure (String.ofList (n.toList ++ rest.flatten))

end Reader

end SchemaForge.Template
