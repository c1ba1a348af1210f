import SchemaForge.Template.Failure
import SchemaForge.Template.Path

/-! Names while a template renders: scopes inside one another, and the context around them all. A
loop has a scope that each item clears; a definition has one that hides those around it. -/

namespace SchemaForge.Template

open Json (Value Object)

structure Round where
  key : Option (String × String)
  name : String
  item : Value
  index : Nat
  length : Nat

inductive ScopeKind where
  | template
  | inserted
  | definition (space name : String)
  | loop (round : Round)

structure Scope where
  kind : ScopeKind
  names : Object

namespace Scope

def isLoop (s : Scope) : Bool :=
  match s.kind with
  | .loop _ => true
  | _ => false

def isOutermost (s : Scope) : Bool :=
  match s.kind with
  | .template => true
  | .definition _ _ => true
  | _ => false

/-- A path among some names; the name in front of the first point must be one of them. -/
def findIn (names : Object) (path : String) : Option Value :=
  if Path.isDotted path then
    let (name, rest) := Path.split path
    (names.get? name).bind fun v => Path.follow v rest
  else names.get? path

def Round.find? (r : Round) (path : String) : Option Value :=
  match path with
  | "loop.index" => some (.number (.int (r.index + 1)))
  | "loop.index0" => some (.number (.int r.index))
  | "loop.first" => some (.bool (r.index == 0))
  | "loop.last" => some (.bool (r.index + 1 == r.length))
  | path =>
    match r.key with
    | some (name, key) =>
      if path == name then some (.string key) else findIn [(r.name, r.item)] path
    | none => findIn [(r.name, r.item)] path

def find? (s : Scope) (path : String) : Option Value :=
  match findIn s.names path, s.kind with
  | some v, _ => some v
  | none, .loop round => Round.find? round path
  | none, _ => none

def assign (s : Scope) (name : String) (v : Value) : Scope := { s with names := s.names.insert name v }

end Scope

namespace Scopes

def find? (context : Object) : List Scope → String → Option Value
  | [], path => Scope.findIn context path
  | s :: rest, path =>
    match s.find? path with
    | some v => some v
    | none => if s.isOutermost then Scope.findIn context path else find? context rest path

def assignInner (name : String) (v : Value) : List Scope → List Scope
  | [] => []
  | s :: rest => s.assign name v :: rest

def assignOutside (name : String) (v : Value) : List Scope → List Scope
  | [] => []
  | s :: rest => if s.isLoop then s :: assignOutside name v rest else s.assign name v :: rest

def definition? : List Scope → Option (String × String)
  | ⟨.definition space name, _⟩ :: _ => some (space, name)
  | _ => none

def visible (context : Object) (names : Object) : List Scope → Object
  | [] => names.foldl (fun o e => o.insert e.1 e.2) context
  | s :: rest =>
    let names := s.names.foldl (fun o e => o.insert e.1 e.2) names
    match s.kind with
    | .loop round =>
      let names := names.insert round.name round.item
      let names := match round.key with
        | some (k, key) => names.insert k (.string key)
        | none => names
      visible context names rest
    | .definition _ _ => names
    | _ => visible context names rest

end Scopes

def everything : String := "__tera_context"

def everythingText (context : Object) (scopes : List Scope) : String :=
  let names := Scopes.visible context [] scopes
  layered 0 (.object (names.mergeSort fun a b => decide (a.1 ≤ b.1)))

def settlePath (find : String → Except Failure Value) (path : String) : Except Failure String :=
  (Path.innerPaths path).foldlM (fun settled inner =>
    match find inner with
    | .error cause => .error (.unsettled path cause.headline)
    | .ok (.string s) => .ok (Path.settleBracket settled inner ("\"" ++ s ++ "\""))
    | .ok (.number n) => .ok (Path.settleBracket settled inner n.text)
    | .ok _ => .error (.badIndex inner path)) path

def findPath (template : String) (find? : String → Option Value) : Nat → String →
    Except Failure Value
  | 0, _ => .error .tooDeep
  | depth + 1, path =>
    if path.toList.contains '[' then
      match settlePath (findPath template find? depth) path with
      | .error e => .error e
      | .ok settled =>
        let pointed := Path.pointed settled
        match find? pointed with
        | some v => .ok v
        | none => .error (.unknownPlace path template pointed)
    else
      match find? path with
      | some v => .ok v
      | none => .error (.unknown path template)

def findVariable (template : String) (context : Object) (scopes : List Scope) (path : String) :
    Except Failure Value :=
  if path == everything then .ok (.string (everythingText context scopes))
  else findPath template (Scopes.find? context scopes) (path.length + 1) path

end SchemaForge.Template
