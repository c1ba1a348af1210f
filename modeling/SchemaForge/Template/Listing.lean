import SchemaForge.Template.Basic
import SchemaForge.Template.Value

/-! Expressions as messages show them. -/

namespace SchemaForge.Template

def MathOp.listed : MathOp → String
  | .add => "Add"
  | .sub => "Sub"
  | .mul => "Mul"
  | .div => "Div"
  | .mod => "Modulo"

def OrderOp.listed : OrderOp → String
  | .lt => "Lt"
  | .le => "Lte"
  | .gt => "Gt"
  | .ge => "Gte"

def LogicOp.listed : LogicOp → String
  | .and => "And"
  | .or => "Or"

def flagText (b : Bool) : String := if b then "true" else "false"

def recordText (name : String) (fields : List (String × String)) : String :=
  name ++ " \x7b " ++ String.intercalate ", " (fields.map fun f => f.1 ++ ": " ++ f.2) ++ " \x7d"

def listText (items : List String) : String := "[" ++ String.intercalate ", " items ++ "]"

def mapText (entries : List (String × String)) : String :=
  "\x7b" ++ String.intercalate ", " (entries.map fun e => Text.listed e.1 ++ ": " ++ e.2) ++ "\x7d"

def operationText (kind record : String) (lhs rhs op : String) : String :=
  kind ++ "(" ++ recordText record [("lhs", lhs), ("rhs", rhs), ("operator", op)] ++ ")"

mutual

def Expr.listed : Expr → String
  | .mk operand negated filters =>
    recordText "Expr" [("val", operand.listed), ("negated", flagText negated),
      ("filters", listText (listedCalls filters))]

def Operand.listed : Operand → String
  | .string s => "String(" ++ Text.listed s ++ ")"
  | .int i => "Int(" ++ toString i ++ ")"
  | .float x => "Float(" ++ Decimal.listingText x ++ ")"
  | .bool b => "Bool(" ++ flagText b ++ ")"
  | .path p => "Ident(" ++ Text.listed p ++ ")"
  | .math op l r => operationText "Math" "MathExpr" l.listed r.listed op.listed
  | .order op l r => operationText "Logic" "LogicExpr" l.listed r.listed op.listed
  | .equal b l r =>
    operationText "Logic" "LogicExpr" l.listed r.listed (if b then "Eq" else "NotEq")
  | .logic op l r => operationText "Logic" "LogicExpr" l.listed r.listed op.listed
  | .member negated l r =>
    "In(" ++ recordText "In" [("lhs", l.listed), ("rhs", r.listed), ("negated", flagText negated)]
      ++ ")"
  | .test negated path name args =>
    "Test(" ++ recordText "Test" [("ident", Text.listed path), ("negated", flagText negated),
      ("name", Text.listed name), ("args", listText (listedExprs args))] ++ ")"
  | .call c => "FunctionCall(" ++ c.listed ++ ")"
  | .expand space name args =>
    "MacroCall(" ++ recordText "MacroCall" [("namespace", Text.listed space),
      ("name", Text.listed name), ("args", mapText (listedArgs args))] ++ ")"
  | .concat parts =>
    "StringConcat(" ++ recordText "StringConcat" [("values", listText (listedOperands parts))] ++ ")"
  | .array items => "Array(" ++ listText (listedExprs items) ++ ")"

def Call.listed : Call → String
  | .mk name args =>
    recordText "FunctionCall" [("name", Text.listed name), ("args", mapText (listedArgs args))]

def listedCalls : List Call → List String
  | [] => []
  | c :: rest => c.listed :: listedCalls rest

def listedExprs : List Expr → List String
  | [] => []
  | e :: rest => e.listed :: listedExprs rest

def listedOperands : List Operand → List String
  | [] => []
  | o :: rest => o.listed :: listedOperands rest

def listedArgs : List (String × Expr) → List (String × String)
  | [] => []
  | (n, e) :: rest => (n, e.listed) :: listedArgs rest

end

def partText : Operand → String
  | .string s => "'" ++ s ++ "'"
  | .path p => p
  | _ => "unknown"

end SchemaForge.Template
