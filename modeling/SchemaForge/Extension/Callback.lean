import SchemaForge.Extension.Bridge
import SchemaForge.Extension.Marshal

/-! Filters and tags: script functions that are called while a template renders. The function is
looked up by its name at every call. -/

namespace SchemaForge.Extension

open Json (Object)
open Script (Host Session)
open Text (Utf8.decode)

inductive CallbackError where
  | missing (function : String)
  | script (function message : String)
  | marshal (function : String) (cause : MarshalError)
  deriving Inhabited, Repr

namespace CallbackError

def message : CallbackError → String
  | .missing function => s!"script function '{function}' is not defined"
  | .script function message => s!"script function '{function}' raised an error: {message}"
  | .marshal function cause => s!"script function '{function}': {cause.message}"

def chain (e : CallbackError) : List String :=
  match e with
  | .marshal _ cause => [e.message, cause.message]
  | e => [e.message]

end CallbackError

def filterFailure (name : String) : String := s!"filter '{name}' failed"

def tagFailure (name : String) : String := s!"tag '{name}' failed"

variable {σ : Type}

abbrev Called (σ α : Type) := Session σ × Except CallbackError α

/-- What is told of a failed call. Where a script has ended the program there is nothing to tell. -/
def failureTexts (behind : Session σ) (outermost : String) (e : CallbackError) : List String :=
  if behind.heap.exited.isSome then [] else outermost :: e.chain

def findFunction (host : Host σ) (s : Session σ) (name : String) : Called σ Script.Value :=
  let found (s : Session σ) (v : Script.Value) : Called σ Script.Value :=
    if v.typeName == "function" then (s, .ok v) else (s, .error (.missing name))
  match s.heap.index Script.metaDepth (.table Script.Library.globals) (.text name) with
  | .value v => found s v
  | .call f object key =>
    match s.call host f [object, key] with
    | (s, .ok results) => found s (results.head?.getD .nil)
    | (s, .error _) => (s, .error (.missing name))
  | _ => (s, .error (.missing name))

/-- Call a function of the script state; the result is the first value it gives back. -/
def callFunction (host : Host σ) (s : Session σ) (name : String) (argument : Option Json.Value) :
    Called σ Script.Value :=
  match findFunction host s name with
  | (s, .error e) => (s, .error e)
  | (s, .ok f) =>
    let (heap, args) := match argument with
      | some v =>
        let (heap, arg) := toScript s.heap v
        (heap, [arg])
      | none => (s.heap, [])
    match Session.call host { s with heap } f args with
    | (s, .ok results) => (s, .ok (results.head?.getD .nil))
    | (s, .error e) => (s, .error (.script name e.message))

def FilterBinding.apply (host : Host σ) (s : Session σ) (b : FilterBinding) (v : Json.Value) :
    Called σ Json.Value :=
  let argument := match v with
    | .null => none
    | v => some v
  match callFunction host s b.function argument with
  | (s, .error e) => (s, .error e)
  | (s, .ok result) =>
    match b.kind.convert s.heap result with
    | .ok v => (s, .ok v)
    | .error e => (s, .error (.marshal b.function e))

/-- What the function of a tag receives: the context, with the arguments laid over it. -/
def tagArgument (context : Json.Value) (args : Object) : Json.Value :=
  match context with
  | .object fields => .object (args.foldl (fun o e => Object.insert o e.1 e.2) fields)
  | context => context

def callTag (host : Host σ) (s : Session σ) (function : String) (context : Json.Value)
    (args : Object) : Called σ String :=
  match callFunction host s function (some (tagArgument context args)) with
  | (s, .error e) => (s, .error e)
  | (s, .ok (.string b)) =>
    match Utf8.decode b with
    | .ok text => (s, .ok text)
    | .error fault =>
      (s, .error (.script function (ConversionError.badText fault).message))
  | (s, .ok v) => (s, .error (.marshal function (.mismatch .string v.exactTypeName)))

end SchemaForge.Extension
