import SchemaForge.Script.Number

/-! Programs of the script language. Calls, look-ups and operations carry the line that an error in
them points at. -/

namespace SchemaForge.Script

open Text.Utf8 (Bytes)

inductive UnaryOp where
  | negate
  | complement
  | not
  | length
  deriving DecidableEq, Repr, Inhabited

inductive BinaryOp where
  | add | sub | mul | div | floorDiv | mod | pow
  | bitAnd | bitOr | bitXor | shiftLeft | shiftRight
  | concat
  | equal | notEqual | less | lessEq | greater | greaterEq
  deriving DecidableEq, Repr, Inhabited

mutual

inductive Expr where
  | nil
  | bool (value : Bool)
  | number (value : Numeric)
  | string (bytes : Bytes)
  | varargs
  | function (body : FunctionBody)
  | name (name : String) (line : Nat)
  | index (object key : Expr) (line : Nat)
  | call (function : Expr) (arguments : List Expr) (line : Nat)
  | method (object : Expr) (name : String) (arguments : List Expr) (line : Nat)
  | unary (op : UnaryOp) (operand : Expr) (line : Nat)
  | binary (op : BinaryOp) (left right : Expr) (line : Nat)
  | and (left right : Expr)
  | or (left right : Expr)
  /-- Brackets around an expression cut its values down to one. -/
  | single (inner : Expr)
  | table (items : List TableItem) (line : Nat)

inductive TableItem where
  | positional (value : Expr)
  | keyed (key value : Expr)

inductive Stat where
  /-- New local variables; those in `fixed` are never assigned to again, and one may be closed at the
  end of its block. -/
  | locals (names fixed : List String) (closed : Option String) (values : List Expr) (line : Nat)
  | assign (targets values : List Expr) (line : Nat)
  | call (call : Expr)
  | block (body : List Stat)
  | whileLoop (condition : Expr) (body : List Stat)
  | repeatLoop (body : List Stat) (condition : Expr)
  | choose (condition : Expr) (body otherwise : List Stat)
  | countLoop (name : String) (first last step : Expr) (body : List Stat) (line : Nat)
  | eachLoop (names : List String) (source : List Expr) (body : List Stat) (line : Nat)
  | localFunction (name : String) (body : FunctionBody)
  | returns (values : List Expr) (line : Nat)
  | leave
  | goto (label : String)
  | label (name : String)

inductive FunctionBody where
  | mk (parameters : List String) (variadic : Bool) (body : List Stat)

end

instance : Inhabited Expr := ⟨.nil⟩
instance : Inhabited Stat := ⟨.leave⟩
instance : Inhabited FunctionBody := ⟨.mk [] false []⟩

namespace FunctionBody

def parameters : FunctionBody → List String
  | .mk ps _ _ => ps

def variadic : FunctionBody → Bool
  | .mk _ v _ => v

def body : FunctionBody → List Stat
  | .mk _ _ b => b

end FunctionBody

structure Program where
  body : List Stat
  deriving Inhabited

end SchemaForge.Script
