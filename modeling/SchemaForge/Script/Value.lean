import SchemaForge.Script.Program

/-! Values of the script language. Tables, functions, threads and files are named by their places in
the heap, so that two names of one table are one value. -/

namespace SchemaForge.Script

open Text (Utf8.ofString)
open Text.Utf8 (Bytes)

inductive Builtin where
  | assert | collectgarbage | dofile | error | getmetatable | ipairs | ipairsStep | load | loadfile
  | next | pairs | pcall | print | rawequal | rawget | rawlen | rawset | require | select
  | setmetatable | tonumber | tostring | type | warn | xpcall
  | coroutineClose | coroutineCreate | coroutineIsyieldable | coroutineResume | coroutineRunning
  | coroutineStatus | coroutineWrap | coroutineWrapped | coroutineYield
  | ioClose | ioFlush | ioInput | ioLines | ioLinesStep | ioOpen | ioOutput | ioPopen | ioRead
  | ioTmpfile | ioType | ioWrite
  | fileClose | fileFlush | fileLines | fileRead | fileRelease | fileSeek | fileSetvbuf | fileText
  | fileWrite
  | mathAbs | mathAcos | mathAsin | mathAtan | mathCeil | mathCos | mathDeg | mathExp | mathFloor
  | mathFmod | mathLog | mathMax | mathMin | mathModf | mathRad | mathRandom | mathRandomseed
  | mathSin | mathSqrt | mathTan | mathTointeger | mathType | mathUlt
  | osClock | osDate | osDifftime | osExecute | osExit | osGetenv | osRemove | osRename | osSetlocale
  | osTime | osTmpname
  | packageLoadlib | packageSearchpath | searchPreload | searchScript | searchLibrary
  | stringByte | stringChar | stringDump | stringFind | stringFormat | stringGmatch
  | stringGmatchStep | stringGsub | stringLen | stringLower | stringMatch | stringPack
  | stringPacksize | stringRep | stringReverse | stringSub | stringUnpack | stringUpper
  | tableConcat | tableInsert | tableMove | tablePack | tableRemove | tableSort | tableUnpack
  | utf8Char | utf8Codepoint | utf8Codes | utf8CodesStep (lax : Bool) | utf8Len | utf8Offset
  deriving DecidableEq, Repr, Inhabited

inductive Value where
  | nil
  | bool (value : Bool)
  | number (value : Numeric)
  | string (bytes : Bytes)
  | table (place : Nat)
  | closure (place : Nat)
  | builtin (b : Builtin)
  | thread (place : Nat)
  | file (place : Nat)
  | host (name : String)
  | failure (message : String)
  deriving Inhabited, Repr

namespace Value

def int (i : Int) : Value := .number (.int (Int64.ofInt i))

def float (x : Float) : Value := .number (.float x)

def text (s : String) : Value := .string (Utf8.ofString s)

def truthy : Value → Bool
  | .nil => false
  | .bool b => b
  | _ => true

def isNil : Value → Bool
  | .nil => true
  | _ => false

/-- Equality without regard to metatables. Numbers of both kinds compare by what they are. -/
def rawEqual : Value → Value → Bool
  | .nil, .nil => true
  | .bool a, .bool b => a == b
  | .number a, .number b => Numeric.equal a b
  | .string a, .string b => a == b
  | .table a, .table b => a == b
  | .closure a, .closure b => a == b
  | .builtin a, .builtin b => a == b
  | .thread a, .thread b => a == b
  | .file a, .file b => a == b
  | .host a, .host b => a == b
  | .failure a, .failure b => a == b
  | _, _ => false

def typeName : Value → String
  | .nil => "nil"
  | .bool _ => "boolean"
  | .number _ => "number"
  | .string _ => "string"
  | .table _ => "table"
  | .closure _ | .builtin _ | .host _ => "function"
  | .thread _ => "thread"
  | .file _ | .failure _ => "userdata"

def exactTypeName : Value → String
  | .number (.int _) => "integer"
  | .failure _ => "error"
  | v => v.typeName

def normalKey : Value → Value
  | .number (.float x) =>
    match Numeric.toInt64? x with
    | some i => .number (.int i)
    | none => .number (.float x)
  | v => v

def badKey? : Value → Option String
  | .nil => some "index is nil"
  | .number (.float x) => if x.isNaN then some "index is NaN" else none
  | _ => none

def toNumber? : Value → Option Numeric
  | .number n => some n
  | .string b => Numeric.ofBytes? b
  | _ => none

def toBytes? : Value → Option Bytes
  | .string b => some b
  | .number n => some (Utf8.ofString n.text)
  | _ => none

end Value

inductive Meta where
  | none
  | listMark
  | table (place : Nat)
  deriving DecidableEq, Repr, Inhabited

/-- A table: positions from 1 on, and entries for all other keys in the order of their coming.
`room` is the number of entries that fit before the table is laid out anew; an entry whose value
is gone keeps its place until then. -/
structure Table where
  items : Array Value
  entries : List (Value × Value)
  room : Nat
  metatable : Meta
  deriving Inhabited, Repr

namespace Table

/-- The least power of two that holds `n` entries; no entries need no room. -/
def roomFor (n : Nat) : Nat :=
  if n = 0 then 0
  else twoTo (((List.range (n + 1)).find? fun k => n ≤ twoTo k).getD 0)

def sized (positions keys : Nat) : Table :=
  ⟨Array.replicate positions .nil, [], roomFor keys, .none⟩

def position? (t : Table) : Value → Option Nat
  | .number (.int i) =>
    if 1 ≤ i.toInt && i.toInt ≤ t.items.size then some (i.toInt.toNat - 1) else none
  | _ => none

def held? (key : Value) : List (Value × Value) → Option Value
  | [] => none
  | (k, v) :: rest => if k.rawEqual key then some v else held? key rest

def get (t : Table) (key : Value) : Value :=
  match t.position? key with
  | some i => t.items[i]?.getD .nil
  | none => (held? key t.entries).getD .nil

def getInt (t : Table) (n : Nat) : Value :=
  if 1 ≤ n ∧ n ≤ t.items.size then t.items[n - 1]?.getD .nil
  else if n < Word.signedEnd then (held? (Value.int n) t.entries).getD .nil
  else .nil

def replaceEntry (key value : Value) : List (Value × Value) → List (Value × Value)
  | [] => []
  | (k, v) :: rest =>
    if k.rawEqual key then (k, value) :: rest else (k, v) :: replaceEntry key value rest

def index? : Value → Option Nat
  | .number (.int i) => if 0 < i.toInt then some i.toInt.toNat else none
  | _ => none

def bestSize (indices : List Nat) : Nat :=
  (List.range 64).foldl (fun best k =>
    let size := twoTo k
    if size < 2 * indices.length && size < 2 * (indices.filter (· ≤ size)).length then size
    else best) 0

def usedIndices (t : Table) : List Nat :=
  (List.range t.items.size).filterMap (fun i =>
    if (t.items[i]?.getD .nil).isNil then none else some (i + 1)) ++
  t.entries.filterMap fun e => if e.2.isNil then none else index? e.1

def layOut (t : Table) (key : Value) : Table :=
  let indices := (index? key).toList ++ t.usedIndices
  let size := bestSize indices
  let inside := (indices.filter (· ≤ size)).length
  let live := t.entries.filter fun e => !e.2.isNil
  let moved := (List.range (t.items.size - size)).filterMap fun i =>
    let v := t.items[size + i]?.getD .nil
    if v.isNil then none else some (Value.int (size + i + 1), v)
  let total := live.length + (t.items.toList.filter fun v => !v.isNil).length + 1
  ⟨Array.ofFn (fun (i : Fin size) => t.getInt (i.val + 1)),
    (live.filter fun e =>
      match index? e.1 with
      | some n => decide (size < n)
      | none => true) ++ moved,
    roomFor (total - inside), t.metatable⟩

def addKey (t : Table) (key value : Value) : Table :=
  match t.position? key with
  | some i => { t with items := t.items.setIfInBounds i value }
  | none => { t with entries := t.entries ++ [(key, value)] }

def set (t : Table) (key value : Value) : Table :=
  match t.position? key with
  | some i => { t with items := t.items.setIfInBounds i value }
  | none =>
    if (held? key t.entries).isSome then
      { t with entries := replaceEntry key value t.entries }
    else if value.isNil then t
    else if t.entries.length < t.room then t.addKey key value
    else (t.layOut key).addKey key value

def setInt (t : Table) (n : Nat) (value : Value) : Table := t.set (Value.int n) value

/-- Halve the stretch between a position in use (or 0) and one that is not. -/
def halve (present : Nat → Bool) (fuel low high : Nat) : Nat :=
  match fuel with
  | 0 => low
  | fuel + 1 =>
    if high - low ≤ 1 then low
    else
      let middle := (low + high) / 2
      if present middle then halve present fuel middle high else halve present fuel low middle

def double (present : Nat → Bool) (fuel n : Nat) : Nat :=
  match fuel with
  | 0 => n
  | fuel + 1 => if present (2 * n) then double present fuel (2 * n) else n

/-- A border of the table: a position in use (or 0) behind which one is not. Where there are
several, the layout of the table picks one. -/
def border (t : Table) : Nat :=
  let n := t.items.size
  let present (i : Nat) : Bool := !(t.getInt i).isNil
  if 0 < n && !present n then
    if 2 ≤ n && present (n - 1) then n - 1 else halve present n 0 n
  else if t.room = 0 || !present (n + 1) then n
  else
    let low := double present 62 (max n 1)
    halve present 64 low (2 * low)

/-- The keys in use and their values: positions first, then entries in order. -/
def pairs (t : Table) : List (Value × Value) :=
  (t.items.toList.mapIdx fun i v => (Value.int (i + 1), v)).filter (fun e => !e.2.isNil) ++
    t.entries.filter fun e => !e.2.isNil

def sequenceFrom (t : Table) (fuel n : Nat) : List Value :=
  match fuel with
  | 0 => []
  | fuel + 1 =>
    let v := t.getInt n
    if v.isNil then [] else v :: sequenceFrom t fuel (n + 1)

def sequence (t : Table) : List Value :=
  t.sequenceFrom (t.items.size + t.entries.length) 1

end Table

inductive Closure where
  | script (chunk : Bytes) (body : FunctionBody) (names : List (String × Nat))
  | bound (b : Builtin) (state : List Value)
  deriving Inhabited

end SchemaForge.Script
