import SchemaForge.Json.Value

/-! The language of templates: text with tags in it, and the expressions that stand in tags. -/

namespace SchemaForge.Template

inductive MathOp where
  | add
  | sub
  | mul
  | div
  | mod
  deriving DecidableEq, Repr, Inhabited

inductive OrderOp where
  | lt
  | le
  | gt
  | ge
  deriving DecidableEq, Repr, Inhabited

inductive LogicOp where
  | and
  | or
  deriving DecidableEq, Repr, Inhabited

mutual

/-- An operand, whether `not` stands before it, and the filters behind it. -/
inductive Expr where
  | mk (operand : Operand) (negated : Bool) (filters : List Call)

inductive Operand where
  | string (text : String)
  | int (value : Int)
  | float (value : Float)
  | bool (value : Bool)
  | path (text : String)
  | math (op : MathOp) (lhs rhs : Expr)
  | order (op : OrderOp) (lhs rhs : Expr)
  | equal (same : Bool) (lhs rhs : Expr)
  | logic (op : LogicOp) (lhs rhs : Expr)
  | member (negated : Bool) (lhs rhs : Expr)
  | test (negated : Bool) (path name : String) (args : List Expr)
  | call (function : Call)
  | expand (space name : String) (args : List (String × Expr))
  | concat (parts : List Operand)
  | array (items : List Expr)

inductive Call where
  | mk (name : String) (args : List (String × Expr))

end

instance : Inhabited Operand := ⟨.string ""⟩
instance : Inhabited Expr := ⟨.mk default false []⟩
instance : Inhabited Call := ⟨.mk "" []⟩

namespace Expr

def operand : Expr → Operand
  | .mk o _ _ => o

def negated : Expr → Bool
  | .mk _ n _ => n

def filters : Expr → List Call
  | .mk _ _ fs => fs

def plain (o : Operand) : Expr := .mk o false []

def withNegated (e : Expr) (negated : Bool) : Expr := .mk e.operand negated e.filters

end Expr

namespace Call

def name : Call → String
  | .mk n _ => n

def args : Call → List (String × Expr)
  | .mk _ args => args

end Call

structure Margins where
  left : Bool
  right : Bool
  deriving DecidableEq, Repr, Inhabited

inductive Tag where
  | comment
  | output (e : Expr)
  /-- Give a name a value, in the innermost scope or in that around all loops. -/
  | assign (name : String) (value : Expr) (outside : Bool)
  | leaveLoop
  | nextItem
  | insert (names : List String) (optional : Bool)
  | borrow (template space : String)
  deriving Inhabited

structure Parameter where
  name : String
  default? : Option Operand
  deriving Inhabited

mutual

inductive Node where
  | text (s : String)
  | tag (m : Margins) (t : Tag)
  | verbatim (first : Margins) (s : String) (last : Margins)
  | region (first : Margins) (r : Region) (body : List Node) (last : Margins)
  | branch (arms : List Arm) (otherwise : Option (Margins × List Node)) (last : Margins)
  | replaced

inductive Region where
  | loop (key : Option String) (value : String) (source : Expr) (empty : Option (List Node))
  | definition (name : String) (parameters : List Parameter)
  | filtered (filter : Call)
  | block (name : String)

inductive Arm where
  | mk (m : Margins) (condition : Expr) (body : List Node)

end

instance : Inhabited Node := ⟨.text ""⟩
instance : Inhabited Region := ⟨.block ""⟩
instance : Inhabited Arm := ⟨.mk default default []⟩

namespace Arm

def margins : Arm → Margins
  | .mk m _ _ => m

def condition : Arm → Expr
  | .mk _ e _ => e

def body : Arm → List Node
  | .mk _ _ nodes => nodes

end Arm

end SchemaForge.Template
