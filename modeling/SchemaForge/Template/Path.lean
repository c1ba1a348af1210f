import SchemaForge.Json.Value
import SchemaForge.Text.Search

/-! Variables of templates: keys and indices into a value, written with points and brackets, and
the brackets that hold variables themselves. -/

namespace SchemaForge.Template.Path

open Json (Value Object)
open Text (replace)

structure Quotes where
  single : Bool
  double : Bool
  escaped : Bool

def Quotes.free (q : Quotes) : Bool := !q.single && !q.double && !q.escaped

def emit (lead : Nat) (seen : List Char) : List String :=
  match seen.reverse.drop lead with
  | [] => []
  | cs => [String.ofList cs]

/-- Split a path at its points and opening brackets, outside quotes. `seen` is the step so far, and
`lead` counts those of its characters that are not part of it. -/
def stepsFrom (q : Quotes) (lead : Nat) (seen : List Char) : List Char → List String
  | [] => emit lead seen
  | c :: rest =>
    let calm := { q with escaped := false }
    let go := fun (q : Quotes) => stepsFrom q lead (c :: seen) rest
    let cut := fun (q : Quotes) =>
      if seen.length = lead then stepsFrom q (lead + 1) (c :: seen) rest
      else emit lead seen ++ stepsFrom q 0 [] rest
    if c == '\\' then go { q with escaped := true }
    else if c == '"' then
      if q.escaped then go calm else cut { calm with double := !q.double }
    else if c == '\'' then
      if q.escaped then go calm else cut { calm with single := !q.single }
    else if c == '.' then if q.free then cut calm else go calm
    else if c == '[' then
      if q.free then emit lead seen ++ stepsFrom calm 0 [] rest else go calm
    else if c == ']' then
      if q.free then stepsFrom calm (lead + 1) (c :: seen) rest else go calm
    else go calm

def steps (path : String) : List String :=
  (stepsFrom ⟨false, false, false⟩ 0 [] path.toList).map fun s =>
    replace (replace s "~1" "/") "~0" "~"

def index? (s : String) : Option Nat :=
  let cs := s.toList
  if cs.isEmpty || !cs.all Char.isDigit then none
  else if cs.head? == some '0' && cs.length != 1 then none
  else some (cs.foldl (fun n c => n * 10 + (c.toNat - 48)) 0)

def step (v : Value) (s : String) : Option Value :=
  match v with
  | .object o => Object.get? o s
  | .array items => (index? s).bind fun i => items[i]?
  | _ => none

def follow (v : Value) (path : String) : Option Value := (steps path).foldlM step v

def split (path : String) : String × String :=
  let cs := path.toList
  (String.ofList (cs.takeWhile (· != '.')), String.ofList ((cs.dropWhile (· != '.')).drop 1))

def isDotted (path : String) : Bool := path.toList.contains '.'

def inBrackets (depth : Nat) (before : List Char) : List Char → List Char × List Char
  | [] => (before.reverse, [])
  | c :: rest =>
    if c == ']' then
      if depth = 0 then (before.reverse, rest) else inBrackets (depth - 1) (c :: before) rest
    else inBrackets (if c == '[' then depth + 1 else depth) (c :: before) rest

def innerPathsUpTo : Nat → List Char → List String
  | 0, _ => []
  | fuel + 1, cs =>
    match cs.dropWhile (· != '[') with
    | _ :: c :: rest =>
      if c == '"' || c == '\'' then innerPathsUpTo fuel rest
      else
        let (inside, behind) := inBrackets 0 [] (c :: rest)
        if !inside.isEmpty && inside.all Char.isDigit then innerPathsUpTo fuel behind
        else String.ofList inside :: innerPathsUpTo fuel behind
    | _ => []

def innerPaths (path : String) : List String := innerPathsUpTo path.length path.toList

def replaceFirst (needle other : List Char) : List Char → List Char
  | [] => []
  | c :: rest =>
    if needle.isPrefixOf (c :: rest) then other ++ (c :: rest).drop needle.length
    else c :: replaceFirst needle other rest

def settleBracket (path inner value : String) : String :=
  String.ofList (replaceFirst ("[" ++ inner ++ "]").toList ("." ++ value).toList path.toList)

def pointed (path : String) : String :=
  [("/", "~1"), ("['", ".\""), ("[\"", ".\""), ("[", "."), ("']", "\""), ("\"]", "\""),
    ("]", "")].foldl (fun s (a, b) => replace s a b) path

end SchemaForge.Template.Path
