import SchemaForge.Script.Value
import SchemaForge.System

/-! Functions that are not written in the script language: the steps they take in the heap, the
functions they call, how they fail, and how they take their arguments. -/

namespace SchemaForge.Script

open Text (Utf8.ofString)
open Text.Utf8 (Bytes)

inductive Fault where
  | message (text : String)
  | argument (n : Nat) (text : String)
  | raise (v : Value)
  | exit (code : Int)
  deriving Inhabited

inductive Found where
  | value (v : Value)
  | call (handler object key : Value)
  | notTable (v : Value)
  | endless

inductive Assigned where
  | done
  | call (handler object key value : Value)
  | notTable (v : Value)
  | badKey (reason : String)
  | endless

structure OpenFile where
  handle : Nat
  isPipe : Bool
  /-- The files that every script finds open stay open. -/
  isStandard : Bool
  isClosed : Bool
  deriving DecidableEq, Repr, Inhabited

structure Seed where
  a : UInt64
  b : UInt64
  c : UInt64
  d : UInt64
  deriving DecidableEq, Repr, Inhabited

structure Collector where
  running : Bool
  generational : Bool
  pause : Int
  multiplier : Int
  deriving DecidableEq, Repr, Inhabited

inductive Access where
  | table (place : Nat)
  | setTable (place : Nat) (t : Table)
  | newTable (t : Table)
  | newClosure (c : Closure)
  | newChunk (name : Bytes) (body : FunctionBody) (globals : Value)
  | closure (place : Nat)
  | metatable (v : Value)
  | metamethod (v : Value) (event : String)
  | look (object key : Value)
  | assign (object key value : Value)
  | file (place : Nat)
  | setFile (place : Nat) (f : OpenFile)
  | newFile (f : OpenFile)
  | standard (output : Bool)
  | setStandard (output : Bool) (place : Nat)
  | seed
  | setSeed (s : Seed)
  | collector
  | setCollector (c : Collector)
  | print (bytes : Bytes)
  | environment (name : String)
  | dump (body : FunctionBody) (strip : Bool)
  | undump (bytes : Bytes)
  | ask (r : Request)

@[reducible]
def Access.Answer : Access → Type
  | .table _ => Table
  | .setTable .. => Unit
  | .newTable _ => Nat
  | .newClosure _ => Nat
  | .newChunk .. => Nat
  | .closure _ => Closure
  | .metatable _ => Option Nat
  | .metamethod .. => Value
  | .look .. => Found
  | .assign .. => Assigned
  | .file _ => OpenFile
  | .setFile .. => Unit
  | .newFile _ => Nat
  | .standard _ => Nat
  | .setStandard .. => Unit
  | .seed => Seed
  | .setSeed _ => Unit
  | .collector => Collector
  | .setCollector _ => Unit
  | .print _ => Unit
  | .environment _ => Option String
  | .dump .. => Bytes
  | .undump _ => Option FunctionBody
  | .ask r => r.Answer

def stepLimit : Nat := 1000000000

/-- What a function that is not written in the script language does: steps in the heap, and calls
whose results it goes on with. -/
inductive Native (α : Type) where
  | pure (a : α)
  | fail (fault : Fault)
  | access (a : Access) (next : a.Answer → Native α)
  | call (f : Value) (args : List Value) (next : List Value → Native α)

namespace Native

variable {α β : Type}

instance : Inhabited (Native α) := ⟨.fail default⟩

def bind : Native α → (α → Native β) → Native β
  | .pure a, f => f a
  | .fail e, _ => .fail e
  | .access a next, f => .access a fun x => (next x).bind f
  | .call g args next, f => .call g args fun results => (next results).bind f

instance : Monad Native where
  pure := .pure
  bind := bind

def ofExcept : Except Fault α → Native α
  | .ok a => .pure a
  | .error e => .fail e

instance : MonadLift (Except Fault) Native := ⟨ofExcept⟩

def message (text : String) : Native α := .fail (.message text)

def raiseText (text : String) : Native α := .fail (.raise (.text text))

def table (place : Nat) : Native Table := .access (.table place) .pure

def setTable (place : Nat) (t : Table) : Native Unit := .access (.setTable place t) .pure

def newTable (t : Table) : Native Value := .access (.newTable t) fun place => .pure (.table place)

def newClosure (c : Closure) : Native Value :=
  .access (.newClosure c) fun place => .pure (.closure place)

def metatable (v : Value) : Native (Option Nat) := .access (.metatable v) .pure

def metamethod (v : Value) (event : String) : Native Value := .access (.metamethod v event) .pure

def print (bytes : Bytes) : Native Unit := .access (.print bytes) .pure

def ask (r : Request) : Native r.Answer := .access (.ask r) .pure

def seed : Native Seed := .access .seed .pure

def setSeed (s : Seed) : Native Unit := .access (.setSeed s) .pure

def collector : Native Collector := .access .collector .pure

def setCollector (c : Collector) : Native Unit := .access (.setCollector c) .pure

def results (f : Value) (args : List Value) : Native (List Value) := .call f args .pure

def result (f : Value) (args : List Value) : Native Value :=
  .call f args fun results => .pure (results.head?.getD .nil)

def get (object key : Value) : Native Value :=
  .access (.look object key) fun
    | .value v => .pure v
    | .call f object key => result f [object, key]
    | .notTable v => raiseText s!"attempt to index a {v.typeName} value"
    | .endless => raiseText "'__index' chain too long; possibly a loop"

def set (object key value : Value) : Native Unit :=
  .access (.assign object key value) fun
    | .done => .pure ()
    | .call f object key value => .call f [object, key, value] fun _ => .pure ()
    | .notTable v => raiseText s!"attempt to index a {v.typeName} value"
    | .badKey reason => raiseText reason
    | .endless => raiseText "'__newindex' chain too long; possibly a loop"

def getInt (object : Value) (n : Int) : Native Value := get object (.int n)

def setInt (object : Value) (n : Int) (value : Value) : Native Unit := set object (.int n) value

end Native

abbrev Args := List Value

namespace Args

abbrev Result (α : Type) := Except Fault α

def get (args : Args) (n : Nat) : Value := args[n - 1]?.getD .nil

def typeAt (args : Args) (n : Nat) : String :=
  match args[n - 1]? with
  | some (.file _) => "FILE*"
  | some v => v.typeName
  | none => "no value"

def wrong {α : Type} (n : Nat) (text : String) : Result α := .error (.argument n text)

def wrongType {α : Type} (args : Args) (n : Nat) (expected : String) : Result α :=
  wrong n (expected ++ " expected, got " ++ args.typeAt n)

def check (n : Nat) (text : String) (holds : Bool) : Result Unit :=
  if holds then .ok () else wrong n text

def any (args : Args) (n : Nat) : Result Value :=
  match args[n - 1]? with
  | some v => .ok v
  | none => wrong n "value expected"

def bytes (args : Args) (n : Nat) : Result Bytes :=
  match (args.get n).toBytes? with
  | some b => .ok b
  | none => args.wrongType n "string"

def number (args : Args) (n : Nat) : Result Numeric :=
  match (args.get n).toNumber? with
  | some x => .ok x
  | none => args.wrongType n "number"

def float (args : Args) (n : Nat) : Result Float := do return (← args.number n).toFloat

def int (args : Args) (n : Nat) : Result Int := do
  match (← args.number n).toInt? with
  | some i => .ok i.toInt
  | none => wrong n "number has no integer representation"

def orElse {α : Type} (args : Args) (n : Nat) (fallback : α) (take : Args → Nat → Result α) :
    Result α :=
  if (args.get n).isNil then .ok fallback else take args n

def intOr (args : Args) (n : Nat) (fallback : Int) : Result Int := args.orElse n fallback int

def bytesOr (args : Args) (n : Nat) (fallback : Bytes) : Result Bytes := args.orElse n fallback bytes

def table (args : Args) (n : Nat) : Result Nat :=
  match args.get n with
  | .table place => .ok place
  | _ => args.wrongType n "table"

def function (args : Args) (n : Nat) : Result Value :=
  let v := args.get n
  if v.typeName == "function" then .ok v else args.wrongType n "function"

def option (args : Args) (n : Nat) (fallback : Option String) (options : List String) :
    Result String := do
  let b ← match fallback with
    | some text => args.bytesOr n (Utf8.ofString text)
    | none => args.bytes n
  let text := Text.Utf8.decodeLossy b
  if options.contains text then .ok text else wrong n ("invalid option '" ++ text ++ "'")

end Args

def Value.plainText : Value → Bytes
  | .nil => Utf8.ofString "nil"
  | .bool b => Utf8.ofString (if b then "true" else "false")
  | .number n => Utf8.ofString n.text
  | .string b => b
  | .table place => Utf8.ofString s!"table: 0x{place}"
  | .closure place => Utf8.ofString s!"function: 0x{place}"
  | .builtin _ => Utf8.ofString "function: builtin"
  | .thread place => Utf8.ofString s!"thread: 0x{place}"
  | .file place => Utf8.ofString s!"file (0x{place})"
  | .host name => Utf8.ofString s!"function: {name}"
  | .failure message => Utf8.ofString (message ++ "\nstack traceback:\n\t[C]: in ?\n")

/-- Whether one value is less than another, as far as no metatable is asked. -/
def Value.less? : Value → Value → Option Bool
  | .number a, .number b => some (Numeric.less a b)
  | .string a, .string b => some (decide (a < b))
  | _, _ => none

def Value.lessEq? : Value → Value → Option Bool
  | .number a, .number b => some (Numeric.lessEq a b)
  | .string a, .string b => some (!decide (b < a))
  | _, _ => none

def Value.compareMessage (a b : Value) : String :=
  if a.typeName == b.typeName then s!"attempt to compare two {a.typeName} values"
  else s!"attempt to compare {a.typeName} with {b.typeName}"

namespace Native

def textOf (v : Value) : Native Bytes := do
  match ← metamethod v "__tostring" with
  | .nil =>
    match ← metamethod v "__name", v with
    | .string name, .table place => return name ++ Utf8.ofString s!": 0x{place}"
    | _, _ => return v.plainText
  | f =>
    match ← result f [v] with
    | .string b => return b
    | .number n => return Utf8.ofString n.text
    | _ => message "'__tostring' must return a string"

def lengthOf (v : Value) : Native Int := do
  let length ← match v, ← metamethod v "__len" with
    | .string b, _ => pure (.int b.length)
    | .table place, .nil => do
      let t ← table place
      pure (.int t.border)
    | v, .nil => raiseText s!"attempt to get length of a {v.typeName} value"
    | v, f => result f [v]
  match length.toNumber?.bind Numeric.toInt? with
  | some i => return i.toInt
  | none => message "object length is not an integer"

def handlerOf (a b : Value) (event : String) : Native Value := do
  match ← metamethod a event with
  | .nil => metamethod b event
  | f => return f

def equal (a b : Value) : Native Bool := do
  if a.rawEqual b then return true
  match a, b with
  | .table _, .table _ =>
    match ← handlerOf a b "__eq" with
    | .nil => return false
    | f => return (← result f [a, b]).truthy
  | _, _ => return false

def less (a b : Value) : Native Bool := do
  match a.less? b with
  | some r => return r
  | none =>
    match ← handlerOf a b "__lt" with
    | .nil => raiseText (a.compareMessage b)
    | f => return (← result f [a, b]).truthy

end Native

end SchemaForge.Script
