import SchemaForge.Script.Frame

/-! The heap of a script state: tables, functions, variables, threads and files, each at its place, and
the computer around. -/

namespace SchemaForge.Script

open Text.Utf8 (Bytes)

structure Heap where
  tables : Array Table
  closures : Array Closure
  cells : Array Value
  /-- The first thread is the one that runs when no other one does. -/
  threads : Array Thread
  files : Array OpenFile
  stringMeta : Nat
  fileMeta : Nat
  input : Nat
  output : Nat
  seed : Seed
  collector : Collector
  /-- What scripts have printed, the last of it first. -/
  printed : List Bytes
  system : System
  /-- What the computer has been asked, the last of it first. -/
  asked : List Request
  exited : Option Int
  deriving Inhabited

def metaDepth : Nat := 2000

namespace Heap

def empty : Heap where
  tables := #[]
  closures := #[]
  cells := #[]
  threads := #[.active]
  files := #[]
  stringMeta := 0
  fileMeta := 0
  input := 0
  output := 1
  seed := default
  collector := ⟨true, false, 200, 100⟩
  printed := []
  system := .bare
  asked := []
  exited := none

def newTable (h : Heap) (t : Table) : Heap × Nat :=
  ({ h with tables := h.tables.push t }, h.tables.size)

def newClosure (h : Heap) (c : Closure) : Heap × Nat :=
  ({ h with closures := h.closures.push c }, h.closures.size)

def newCell (h : Heap) (v : Value) : Heap × Nat :=
  ({ h with cells := h.cells.push v }, h.cells.size)

def newThread (h : Heap) (f : Value) : Heap × Nat :=
  ({ h with threads := h.threads.push (.fresh f) }, h.threads.size)

def newFile (h : Heap) (f : OpenFile) : Heap × Nat :=
  ({ h with files := h.files.push f }, h.files.size)

def table (h : Heap) (place : Nat) : Table := h.tables[place]?.getD default

def setTable (h : Heap) (place : Nat) (t : Table) : Heap :=
  { h with tables := h.tables.setIfInBounds place t }

def cell (h : Heap) (place : Nat) : Value := h.cells[place]?.getD .nil

def setCell (h : Heap) (place : Nat) (v : Value) : Heap :=
  { h with cells := h.cells.setIfInBounds place v }

def closure (h : Heap) (place : Nat) : Closure := h.closures[place]?.getD default

def thread (h : Heap) (place : Nat) : Thread := h.threads[place]?.getD .finished

def setThread (h : Heap) (place : Nat) (t : Thread) : Heap :=
  { h with threads := h.threads.setIfInBounds place t }

def file (h : Heap) (place : Nat) : OpenFile := h.files[place]?.getD default

def setFile (h : Heap) (place : Nat) (f : OpenFile) : Heap :=
  { h with files := h.files.setIfInBounds place f }

def newChunk (h : Heap) (name : Bytes) (body : FunctionBody) (globals : Value) : Heap × Nat :=
  let (h, cell) := h.newCell globals
  h.newClosure (.script name body [(globalTable, cell)])

def metatable? (h : Heap) : Value → Option Nat
  | .table place =>
    match (h.table place).metatable with
    | .table m => some m
    | _ => none
  | .string _ => some h.stringMeta
  | .file _ => some h.fileMeta
  | _ => none

def metamethod (h : Heap) (v : Value) (event : String) : Value :=
  match h.metatable? v with
  | some m => (h.table m).get (.text event)
  | none => .nil

/-- Look a key up, through the metatables of tables that do not hold it. -/
def index (h : Heap) (fuel : Nat) (object key : Value) : Found :=
  match fuel with
  | 0 => .endless
  | fuel + 1 =>
    let through (absent : Found) : Found :=
      match h.metamethod object "__index" with
      | .nil => absent
      | .closure c => .call (.closure c) object key
      | .builtin b => .call (.builtin b) object key
      | .host n => .call (.host n) object key
      | next => index h fuel next key
    match object with
    | .table place =>
      let v := (h.table place).get key.normalKey
      if v.isNil then through (.value .nil) else .value v
    | v => through (.notTable v)

def rawSet (h : Heap) (place : Nat) (key value : Value) : Heap :=
  h.setTable place ((h.table place).set key.normalKey value)

/-- Give a key a value, through the metatables of tables that do not hold it. -/
def assign (h : Heap) (fuel : Nat) (object key value : Value) : Heap × Assigned :=
  match fuel with
  | 0 => (h, .endless)
  | fuel + 1 =>
    let through (absent : Heap × Assigned) : Heap × Assigned :=
      match h.metamethod object "__newindex" with
      | .nil => absent
      | .closure c => (h, .call (.closure c) object key value)
      | .builtin b => (h, .call (.builtin b) object key value)
      | .host n => (h, .call (.host n) object key value)
      | next => assign h fuel next key value
    match object with
    | .table place =>
      let plain : Heap × Assigned :=
        match key.badKey? with
        | some reason => (h, .badKey reason)
        | none => (h.rawSet place key value, .done)
      if ((h.table place).get key.normalKey).isNil then through plain else plain
    | v => through (h, .notTable v)

def ask (h : Heap) (r : Request) : Heap × r.Answer :=
  ({ h with asked := r :: h.asked }, h.system.answer h.asked r)

def access (h : Heap) : (a : Access) → Heap × a.Answer
  | .table place => (h, h.table place)
  | .setTable place t => (h.setTable place t, ())
  | .newTable t => h.newTable t
  | .newClosure c => h.newClosure c
  | .newChunk name body globals => h.newChunk name body globals
  | .closure place => (h, h.closure place)
  | .metatable v => (h, h.metatable? v)
  | .metamethod v event => (h, h.metamethod v event)
  | .look object key => (h, h.index metaDepth object key)
  | .assign object key value => h.assign metaDepth object key value
  | .file place => (h, h.file place)
  | .setFile place f => (h.setFile place f, ())
  | .newFile f => h.newFile f
  | .standard output => (h, if output then h.output else h.input)
  | .setStandard output place =>
    (if output then { h with output := place } else { h with input := place }, ())
  | .seed => (h, h.seed)
  | .setSeed seed => ({ h with seed }, ())
  | .collector => (h, h.collector)
  | .setCollector collector => ({ h with collector }, ())
  | .print bytes => ({ h with printed := bytes :: h.printed }, ())
  | .environment name => (h, h.system.environment name)
  | .dump body strip => (h, h.system.dump body strip)
  | .undump bytes => (h, h.system.undump bytes)
  | .ask r => h.ask r

end Heap

end SchemaForge.Script
