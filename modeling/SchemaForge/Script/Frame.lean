import SchemaForge.Script.Native

/-! What is left to do while a script runs: the frames of its stack, and what it is about to do. -/

namespace SchemaForge.Script

open Text.Utf8 (Bytes)

/-- The variables in sight, innermost first, by their cells: those of the running function, and those
of the functions around it. -/
structure Scope where
  chunk : Bytes
  own : List (String × Nat)
  outer : List (String × Nat)
  varargs : List Value
  deriving Inhabited

def globalTable : String := "_ENV"

def Scope.cell? (s : Scope) (name : String) : Option Nat :=
  match s.own.lookup name with
  | some cell => some cell
  | none => s.outer.lookup name

abbrev Naming := Option (String × String)

def Naming.text : Naming → String
  | some (kind, name) => s!" ({kind} '{name}')"
  | none => ""

def namingOf (s : Scope) : Expr → Naming
  | .name n _ =>
    if (s.own.lookup n).isSome then some ("local", n)
    else if (s.outer.lookup n).isSome then some ("upvalue", n)
    else some ("global", n)
  | .index object (.string key) _ =>
    let global := match object with
      | .name n _ => n == globalTable
      | _ => false
    some (if global then "global" else "field", Text.Utf8.decodeLossy key)
  | .index _ (.number (.int i)) _ =>
    if 0 ≤ i.toInt && i.toInt ≤ 255 then some ("field", "integer index") else some ("field", "?")
  | .index .. => some ("field", "?")
  | .string b => some ("constant", Text.Utf8.decodeLossy b)
  | .single e => namingOf s e
  | _ => none

structure Site where
  position : Option (Bytes × Nat)
  callee : Naming
  deriving Inhabited

def Site.none : Site := ⟨.none, .none⟩

def Site.event (scope : Scope) (line : Nat) (event : String) : Site :=
  ⟨some (scope.chunk, line), some ("metamethod", event)⟩

structure Run where
  all : List Stat
  rest : List Stat
  entry : Nat
  scope : Scope
  deriving Inhabited

def Run.enter (scope : Scope) (body : List Stat) : Run := ⟨body, body, scope.own.length, scope⟩

inductive Target where
  | variable (name : String)
  | item (naming : Naming)

inductive Counter where
  | whole (current step : Int64) (left : Nat)
  | float (current limit step : Float)

inductive Loop where
  | whileLoop (condition : Expr) (body : List Stat)
  | repeatLoop (body : List Stat) (condition : Expr)
  | count (name : String) (body : List Stat) (counter : Counter)
  | each (names : List String) (body : List Stat) (f state control : Value) (line : Nat)

inductive ItemShape where
  | positional
  | keyed

inductive Goal where
  | call (callee : Naming) (line : Nat) (tail : Bool)
  | returns
  | locals (names : List String) (closed : Option String) (run : Run) (line : Nat)
  | assign (targets : List Target) (run : Run) (line : Nat)
  | unary (op : UnaryOp) (naming : Naming) (line : Nat)
  | binary (op : BinaryOp) (left right : Naming) (line : Nat)
  | index (naming : Naming) (line : Nat)
  | table (shapes : List ItemShape) (line : Nat)
  | countLoop (name : String) (body : List Stat) (run : Run) (line : Nat)
  | eachLoop (names : List String) (body : List Stat) (run : Run) (line : Nat)

/-- What a script is about to do. An error is raised first, so that a function may look at it, and then
looks for its way down the stack. -/
inductive Control where
  | eval (e : Expr) (scope : Scope)
  | give (values : List Value)
  | exec (run : Run)
  | call (f : Value) (args : List Value) (site : Site) (tail : Bool)
  | raise (v : Value)
  | unwind (v : Value)
  | leave
  | jump (label : String)
  | returns (values : List Value)

inductive Frame where
  /-- Values of expressions are being gathered, the last ones first in `done`. -/
  | collect (goal : Goal) (spread : Bool) (done : List Value) (todo : List Expr) (scope : Scope)
  | method (name : String) (args : List Expr) (line : Nat) (tail : Bool) (scope : Scope)
  | methodOf (object : Value) (name : String) (args : List Expr) (line : Nat) (tail : Bool)
      (scope : Scope)
  | single
  | truth (negated : Bool)
  | andThen (right : Expr) (scope : Scope)
  | orElse (right : Expr) (scope : Scope)
  | discard (run : Run)
  | choose (body otherwise : List Stat) (run : Run)
  | whileTest (condition : Expr) (body : List Stat) (run : Run)
  | repeatTest (body : List Stat) (condition : Expr) (run : Run)
  | eachTest (names : List String) (body : List Stat) (f state : Value) (line : Nat) (run : Run)
  | block (run : Run)
  | loop (loop : Loop) (run : Run)
  | store (pending : List (Target × List Value × Value)) (run : Run) (line : Nat)
  /-- A value that is closed when its block is left, and how many names there are up to its own. -/
  | closing (v : Value) (site : Site) (level : Nat)
  | after (control : Control)
  | call (site : Site) (depth : Nat)
  /-- A library function's results are those of the function around it. -/
  | returning
  | guarded (site : Site)
  | handled (handler : Value) (site : Site)
  | handling
  | thread (place : Nat) (site : Site) (wrapped : Bool)
  /-- The end of a thread of which only the closing of values is left. -/
  | ending (place : Nat) (site : Site) (wrapped : Bool)
  | native (b : Builtin) (site : Site) (next : List Value → Native (List Value))

/-- A thread of its own: not yet begun, waiting to be resumed, at work or waiting for a thread that it
has resumed, and at its end. -/
inductive Thread where
  | fresh (f : Value)
  | suspended (stack : List Frame)
  | active
  | failed (v : Value) (stack : List Frame)
  | finished
  deriving Inhabited

namespace Frame

def isClosing : Frame → Bool
  | .closing .. => true
  | _ => false

def isHandled : Frame → Bool
  | .handled .. => true
  | _ => false

def isHandling : Frame → Bool
  | .handling => true
  | _ => false

def yields : Frame → Bool
  | .native b _ _ => b == .pairs || b == .dofile
  | .handling => false
  | _ => true

def nests : Frame → Bool
  | .native .. | .guarded _ | .handled .. | .handling | .thread .. | .ending .. => true
  | _ => false

end Frame

/-- The thread that runs, if it is not the first one, and its part of the stack. -/
def runningThread : List Frame → Option Nat
  | [] => none
  | .thread place .. :: _ => some place
  | .ending place .. :: _ => some place
  | _ :: rest => runningThread rest

end SchemaForge.Script
