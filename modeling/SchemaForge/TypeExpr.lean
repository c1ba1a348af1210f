import SchemaForge.Text.Blank

/-! Type expressions: a name, in brackets for a collection of it, with a question mark behind for a
value that may be missing. `parse` reads exactly the forms that `text` writes for a legal name. -/

namespace SchemaForge

structure TypeExpr where
  raw : String
  collection : Bool
  optional : Bool
  deriving DecidableEq, Repr, Inhabited

namespace TypeExpr

/-- Why a text is no type expression; all but the empty text are reported whole. -/
inductive Error where
  | empty
  | unbalanced (text : String)
  | nested (text : String)
  | invalidName (text : String)
  deriving DecidableEq, Repr, Inhabited

def Error.message : Error → String
  | .empty => "empty type expression"
  | .unbalanced text => s!"unbalanced brackets in type expression '{text}'"
  | .nested text =>
    s!"nested or repeated modifier in type expression '{text}' " ++
      "(expected Name, [Name], Name? or [Name]?)"
  | .invalidName text => s!"invalid type name in type expression '{text}'"

def plain (t : TypeExpr) : Bool := !t.collection && !t.optional

def chars (t : TypeExpr) : List Char :=
  (if t.collection then '[' :: t.raw.toList ++ [']'] else t.raw.toList) ++
    (if t.optional then ['?'] else [])

def text (t : TypeExpr) : String := String.ofList t.chars

def isBracket (c : Char) : Bool := c == '[' || c == ']'

def isMark (c : Char) : Bool := isBracket c || c == '?' || Text.isBlank c

def nameLegal (name : List Char) : Bool := !name.isEmpty && !name.any isMark

def splitOptional (cs : List Char) : List Char × Bool :=
  if cs.getLast? = some '?' then (cs.dropLast, true) else (cs, false)

inductive Brackets where
  | both (inner : List Char)
  | neither
  | oneSided
  deriving DecidableEq, Repr

def brackets (cs : List Char) : Brackets :=
  let opens := cs.head? == some '['
  let closes := cs.getLast? == some ']'
  if opens && closes && 2 ≤ cs.length then .both (cs.drop 1).dropLast
  else if !opens && !closes then .neither
  else .oneSided

def parse (s : String) : Except Error TypeExpr :=
  if s.toList = [] then .error .empty
  else
    let (body, optional) := splitOptional s.toList
    if body.contains '?' then .error (.nested s)
    else
      let named (name : List Char) (collection : Bool) (onBracket : Error) :
          Except Error TypeExpr :=
        if name.any isBracket then .error onBracket
        else if name.isEmpty || name.any Text.isBlank then .error (.invalidName s)
        else .ok ⟨String.ofList name, collection, optional⟩
      match brackets body with
      | .both inner => named inner true (.nested s)
      | .neither => named body false (.unbalanced s)
      | .oneSided => .error (.unbalanced s)

end TypeExpr

end SchemaForge
