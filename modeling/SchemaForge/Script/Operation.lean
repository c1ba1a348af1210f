import SchemaForge.Script.Heap

/-! What operators do to values: a result, a metamethod to call, or an error. -/

namespace SchemaForge.Script

open Text (Utf8.ofString)
open Text.Utf8 (Bytes)

inductive Operated where
  | value (v : Value)
  | call (f : Value) (args : List Value) (event : String)
  /-- A metamethod to call; its result counts as a truth value, possibly turned around. -/
  | ask (f : Value) (args : List Value) (event : String) (negated : Bool)
  | error (message : String)

namespace Operated

def arithmeticEvent : BinaryOp → String
  | .add => "__add"
  | .sub => "__sub"
  | .mul => "__mul"
  | .div => "__div"
  | .floorDiv => "__idiv"
  | .mod => "__mod"
  | .pow => "__pow"
  | .bitAnd => "__band"
  | .bitOr => "__bor"
  | .bitXor => "__bxor"
  | .shiftLeft => "__shl"
  | .shiftRight => "__shr"
  | .concat => "__concat"
  | .equal | .notEqual => "__eq"
  | .less | .greater => "__lt"
  | .lessEq | .greaterEq => "__le"

def isBitwise : BinaryOp → Bool
  | .bitAnd | .bitOr | .bitXor | .shiftLeft | .shiftRight => true
  | _ => false

/-- Arithmetic on two numbers. Division and powers always give floats. -/
def arithmetic (op : BinaryOp) (a b : Numeric) : Except String Numeric :=
  match op, a, b with
  | .add, .int a, .int b => .ok (.int (a + b))
  | .sub, .int a, .int b => .ok (.int (a - b))
  | .mul, .int a, .int b => .ok (.int (a * b))
  | .floorDiv, .int a, .int b =>
    if b = 0 then .error "attempt to perform 'n//0'" else .ok (.int (Numeric.floorDiv a b))
  | .mod, .int a, .int b =>
    if b = 0 then .error "attempt to perform 'n%%0'" else .ok (.int (Numeric.floorMod a b))
  | .add, a, b => .ok (.float (a.toFloat + b.toFloat))
  | .sub, a, b => .ok (.float (a.toFloat - b.toFloat))
  | .mul, a, b => .ok (.float (a.toFloat * b.toFloat))
  | .div, a, b => .ok (.float (a.toFloat / b.toFloat))
  | .floorDiv, a, b => .ok (.float (a.toFloat / b.toFloat).floor)
  | .mod, a, b => .ok (.float (Numeric.floatMod a.toFloat b.toFloat))
  | .pow, a, b => .ok (.float (a.toFloat.pow b.toFloat))
  | _, a, _ => .ok a

def bitwise (op : BinaryOp) (a b : Int64) : Int64 :=
  match op with
  | .bitAnd => a &&& b
  | .bitOr => a ||| b
  | .bitXor => a ^^^ b
  | .shiftLeft => Numeric.shiftLeft a b
  | .shiftRight => Numeric.shiftLeft a (-b)
  | _ => a

def handler (h : Heap) (a b : Value) (event : String) : Value :=
  match h.metamethod a event with
  | .nil => h.metamethod b event
  | f => f

def isString : Value → Bool
  | .string _ => true
  | _ => false

def isNumber : Value → Bool
  | .number _ => true
  | _ => false

/-- The operand that an operation is at odds with, the left one first, and how it is named. -/
def culprit (fine : Value → Bool) (a b : Value) (nameA nameB : String) : Value × String :=
  if fine a then (b, nameB) else (a, nameA)

def onArithmetic (h : Heap) (op : BinaryOp) (a b : Value) (nameA nameB : String) : Operated :=
  match a.toNumber?, b.toNumber? with
  | some x, some y =>
    match arithmetic op x y with
    | .ok n => .value (.number n)
    | .error e => .error e
  | _, _ =>
    match handler h a b (arithmeticEvent op) with
    | .nil =>
      let (v, name) := culprit isNumber a b nameA nameB
      let name := if isString a || isString b then "" else name
      .error s!"attempt to perform arithmetic on a {v.typeName} value{name}"
    | f => .call f [a, b] (arithmeticEvent op)

def onBitwise (h : Heap) (op : BinaryOp) (a b : Value) (nameA nameB : String) : Operated :=
  match a.toNumber?.bind Numeric.toInt?, b.toNumber?.bind Numeric.toInt? with
  | some x, some y => .value (.number (.int (bitwise op x y)))
  | x, _ =>
    match handler h a b (arithmeticEvent op) with
    | .nil =>
      if isNumber a && isNumber b then
        let name := if x.isSome then nameB else nameA
        .error s!"number{name} has no integer representation"
      else
        let (v, name) := culprit isNumber a b nameA nameB
        .error s!"attempt to perform bitwise operation on a {v.typeName} value{name}"
    | f => .call f [a, b] (arithmeticEvent op)

def onConcat (h : Heap) (a b : Value) (nameA nameB : String) : Operated :=
  match a.toBytes?, b.toBytes? with
  | some x, some y => .value (.string (x ++ y))
  | _, _ =>
    match handler h a b "__concat" with
    | .nil =>
      let (v, name) := culprit (fun v => v.toBytes?.isSome) a b nameA nameB
      .error s!"attempt to concatenate a {v.typeName} value{name}"
    | f => .call f [a, b] "__concat"

def onEqual (h : Heap) (negated : Bool) (a b : Value) : Operated :=
  if a.rawEqual b then .value (.bool !negated)
  else
    match a, b with
    | .table _, .table _ =>
      match handler h a b "__eq" with
      | .nil => .value (.bool negated)
      | f => .ask f [a, b] "__eq" negated
    | _, _ => .value (.bool negated)

def onOrder (h : Heap) (known : Option Bool) (event : String) (a b : Value) : Operated :=
  match known with
  | some r => .value (.bool r)
  | none =>
    match handler h a b event with
    | .nil => .error (a.compareMessage b)
    | f => .ask f [a, b] event false

def binary (h : Heap) (op : BinaryOp) (a b : Value) (nameA nameB : String) : Operated :=
  match op with
  | .concat => onConcat h a b nameA nameB
  | .equal => onEqual h false a b
  | .notEqual => onEqual h true a b
  | .less => onOrder h (a.less? b) "__lt" a b
  | .lessEq => onOrder h (a.lessEq? b) "__le" a b
  | .greater => onOrder h (b.less? a) "__lt" b a
  | .greaterEq => onOrder h (b.lessEq? a) "__le" b a
  | op => if isBitwise op then onBitwise h op a b nameA nameB else onArithmetic h op a b nameA nameB

def unary (h : Heap) (op : UnaryOp) (v : Value) (name : String) : Operated :=
  match op with
  | .not => .value (.bool !v.truthy)
  | .negate =>
    match v.toNumber? with
    | some (.int i) => .value (.number (.int (-i)))
    | some (.float x) => .value (.number (.float (-x)))
    | none =>
      match h.metamethod v "__unm" with
      | .nil =>
        let name := if isString v then "" else name
        .error s!"attempt to perform arithmetic on a {v.typeName} value{name}"
      | f => .call f [v, v] "__unm"
  | .complement =>
    match v.toNumber?.bind Numeric.toInt? with
    | some i => .value (.number (.int (-i - 1)))
    | none =>
      match h.metamethod v "__bnot" with
      | .nil =>
        if isNumber v then .error s!"number{name} has no integer representation"
        else .error s!"attempt to perform bitwise operation on a {v.typeName} value{name}"
      | f => .call f [v, v] "__bnot"
  | .length =>
    match v with
    | .string b => .value (.int b.length)
    | v =>
      match h.metamethod v "__len", v with
      | .nil, .table place => .value (.int (h.table place).border)
      | .nil, v => .error s!"attempt to get length of a {v.typeName} value{name}"
      | f, v => .call f [v, v] "__len"

end Operated

end SchemaForge.Script
