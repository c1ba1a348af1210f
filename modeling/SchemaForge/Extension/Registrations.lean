import SchemaForge.Extension.ResultKind
import SchemaForge.NameMap
import SchemaForge.Script.Session

/-! What scripts register while they load: predefined types, template filters and template tags.
A call that registers something first converts all its arguments; one that fails changes nothing. -/

namespace SchemaForge.Extension

open Script (Heap Host)
open Text (Utf8.decode)

structure FilterBinding where
  function : String
  kind : ResultKind
  deriving DecidableEq, Repr, Inhabited

structure Registrations where
  predefined : NameSet
  filters : NameMap FilterBinding
  tags : NameMap String
  deriving Inhabited

def Registrations.none : Registrations := ⟨NameMap.empty, NameMap.empty, NameMap.empty⟩

inductive HostCall where
  | log (message : String)
  | predefine (names : List String)
  | filter (name : String) (binding : FilterBinding)
  | tag (name function : String)
  deriving DecidableEq, Repr, Inhabited

namespace HostCall

/-- What a call registers: predefined types replace all earlier ones, a filter or tag only one of
its own name. -/
def apply (r : Registrations) : HostCall → Registrations
  | .log _ => r
  | .predefine names => { r with predefined := NameSet.ofNames names }
  | .filter name binding => { r with filters := r.filters.insert name binding }
  | .tag name function => { r with tags := r.tags.insert name function }

def functions : List String := ["log", "registerPredefinedTypes", "registerFilter", "registerTag"]

abbrev Failing (α : Type) := Except String α

def text (v : Script.Value) : Failing String :=
  match v with
  | .string b =>
    match Utf8.decode b with
    | .ok s => .ok s
    | .error fault => .error s!"error converting Lua string to String ({fault.message})"
  | .number n => .ok n.text
  | v =>
    .error s!"error converting Lua {v.exactTypeName} to String (expected string or number)"

def texts (h : Heap) (v : Script.Value) : Failing (List String) :=
  match v with
  | .table place => (h.table place).sequence.mapM text
  | v => .error s!"error converting Lua {v.exactTypeName} to Vec<String> (expected table)"

def argument {α : Type} (n : Nat) (convert : Script.Value → Failing α) (args : List Script.Value) :
    Failing α :=
  match convert (args[n - 1]?.getD .nil) with
  | .ok a => .ok a
  | .error e => .error s!"bad argument #{n}: {e}"

/-- Read a call of one of the functions. Arguments in excess are ignored. -/
def read (h : Heap) (function : String) (args : List Script.Value) : Failing HostCall := do
  match function with
  | "log" => .ok (.log (← argument 1 text args))
  | "registerPredefinedTypes" => .ok (.predefine (← argument 1 (texts h) args))
  | "registerFilter" =>
    let name ← argument 1 text args
    let function ← argument 2 text args
    let kind ← argument 3 text args
    match ResultKind.parse? kind with
    | some kind => .ok (.filter name ⟨function, kind⟩)
    | none => .error (unknownKindMessage kind)
  | _ =>
    let name ← argument 1 text args
    .ok (.tag name (← argument 2 text args))

/-- Whether a call registers anything, so that it is refused once registrations are closed. -/
def registers : HostCall → Bool
  | .log _ => false
  | _ => true

end HostCall

/-- Registrations while scripts load; nothing once they are closed. -/
abbrev Registry := Option Registrations

def closedMessage : String :=
  "runtime error: registrations are closed once extensions finish loading"

def Registry.accept (r : Registry) (call : HostCall) : Except String Registry :=
  match r with
  | some registrations => .ok (some (call.apply registrations))
  | none => if call.registers then .error closedMessage else .ok none

def host : Host Registry where
  functions := HostCall.functions
  call := fun r h function args =>
    match HostCall.read h function args with
    | .error e => .error (.failure e)
    | .ok call =>
      match r.accept call with
      | .ok r => .ok r
      | .error e => .error (.failure e)

end SchemaForge.Extension
