import SchemaForge.Script.Machine
import SchemaForge.Text.Search

/-! A script state, in which scripts run and leave their globals, and the program around it, which
provides functions and keeps a state of its own. That state changes only where a script calls such
a function and the call succeeds. -/

namespace SchemaForge.Script

open Text (Utf8.ofString)
open Text.Utf8 (Bytes decodeLossy)

/-- The functions that a program provides: what a call does to the program's state, or the value
that the call raises. No such function has results. -/
structure Host (σ : Type) where
  functions : List String
  call : σ → Heap → String → List Value → Except Value σ

def Host.nothing : Host Unit := ⟨[], fun s _ _ _ => .ok s⟩

/-- How a run ends. A script that ends the program does not come to an end of its own. -/
inductive Outcome (σ : Type) where
  | done (state : σ) (heap : Heap) (values : List Value)
  | failed (state : σ) (heap : Heap) (v : Value)
  | unfinished (state : σ) (heap : Heap)

def run {σ : Type} (host : Host σ) : Nat → σ → Config → Outcome σ
  | 0, state, c => .unfinished state c.heap
  | fuel + 1, state, c =>
    match c.step with
    | .next c => run host fuel state c
    | .done heap values => .done state heap values
    | .failed heap v => .failed state heap v
    | .exited heap => .unfinished state heap
    | .ask name args heap stack =>
      match host.call state heap name args with
      | .ok state => run host fuel state ⟨heap, .give [], stack⟩
      | .error v => run host fuel state ⟨heap, .raise v, stack⟩

inductive ScriptError where
  | malformed
  | raised (message : String)
  | unfinished
  deriving DecidableEq, Repr, Inhabited

def ScriptError.message : ScriptError → String
  | .malformed => "syntax error"
  | .raised message => message
  | .unfinished => "runtime error: script does not come to an end"

def dropTraces (inside : Bool) : List String → List String
  | [] => []
  | line :: rest =>
    if line == "stack traceback:" then dropTraces true rest
    else if inside && line.startsWith "\t" then dropTraces true rest
    else line :: dropTraces false rest

def withoutTraces (text : String) : String :=
  String.intercalate "\n" (dropTraces false (Text.piecesAt '\n' text))

def upToZero (b : Bytes) : Bytes := b.takeWhile (· != 0)

structure Session (σ : Type) where
  heap : Heap
  state : σ

namespace Session

variable {σ : Type}

def new (host : Host σ) (state : σ) (system : System := .bare) : Session σ :=
  ⟨host.functions.foldl (fun h name => h.rawSet Library.globals (.text name) (.host name))
    (Library.heap system), state⟩

def errorOf (host : Host σ) (state : σ) (heap : Heap) (v : Value) : Session σ × ScriptError :=
  match v with
  | .failure message => (⟨heap, state⟩, .raised (withoutTraces message))
  | v =>
    let asText (b : Bytes) : ScriptError :=
      .raised (withoutTraces ("runtime error: " ++ decodeLossy (upToZero b)))
    match run host stepLimit state ⟨heap, .call (.builtin .tostring) [v] .none false, []⟩ with
    | .done state heap (.string b :: _) => (⟨heap, state⟩, asText b)
    | .done state heap _ => (⟨heap, state⟩, asText [])
    | .failed state heap v => (⟨heap, state⟩, asText v.plainText)
    | .unfinished state heap => (⟨heap, state⟩, .unfinished)

def start (host : Host σ) (s : Session σ) (c : Config) :
    Session σ × Except ScriptError (List Value) :=
  match run host stepLimit s.state c with
  | .done state heap values => (⟨heap, state⟩, .ok values)
  | .failed state heap v =>
    let (s, e) := errorOf host state heap v
    (s, .error e)
  | .unfinished state heap => (⟨heap, state⟩, .error .unfinished)

def call (host : Host σ) (s : Session σ) (f : Value) (args : List Value) :
    Session σ × Except ScriptError (List Value) :=
  s.start host ⟨s.heap, .call f args .none false, []⟩

def load (host : Host σ) (s : Session σ) (name source : String) :
    Session σ × Except ScriptError (List Value) :=
  match Program.read? source with
  | none => (s, .error .malformed)
  | some program =>
    let (heap, place) := s.heap.newChunk (Library.longName (upToZero (Utf8.ofString name)))
      (.mk [] true program.body) (.table Library.globals)
    call host { s with heap } (.closure place) []

end Session

end SchemaForge.Script
