import SchemaForge.Json.Printer

/-! The structure that schema documents must have. Every fault is reported with the place at which it
stands, in the order of the rules, those of the inner parts where the inner parts are named. -/

namespace SchemaForge.Structure

open Json (Value Object)

inductive Step where
  | key (name : String)
  | index (n : Nat)
  deriving DecidableEq, Repr, Inhabited

abbrev Path := List Step

def Step.text : Step → String
  | .key name => name
  | .index n => toString n

def pathText (path : Path) : String :=
  if path.isEmpty then "document root" else String.join (path.map fun step => "/" ++ step.text)

inductive JsonType where
  | array
  | boolean
  | number
  | object
  | string
  deriving DecidableEq, Repr, Inhabited

def JsonType.text : JsonType → String
  | .array => "array"
  | .boolean => "boolean"
  | .number => "number"
  | .object => "object"
  | .string => "string"

def JsonType.holds : JsonType → Value → Bool
  | .array, .array _ => true
  | .boolean, .bool _ => true
  | .number, .number _ => true
  | .object, .object _ => true
  | .string, .string _ => true
  | _, _ => false

inductive Cause where
  | wrongType (found : Value) (allowed : List JsonType)
  | missingKey (key : String)
  | emptyText
  | notOneOf (found : Value) (allowed : List String)
  deriving Inhabited, Repr

def Cause.text : Cause → String
  | .wrongType found [type] => s!"{found.text} is not of type {Json.quote type.text}"
  | .wrongType found allowed =>
    s!"{found.text} is not of types " ++
      String.intercalate ", " (allowed.map fun type => Json.quote type.text)
  | .missingKey key => s!"{Json.quote key} is a required property"
  | .emptyText => "\"\" is shorter than 1 character"
  | .notOneOf found allowed =>
    found.text ++ " is not one of [" ++ String.intercalate "," (allowed.map Json.quote) ++ "]"

structure Violation where
  path : Path
  cause : Cause
  deriving Inhabited, Repr

def Violation.text (v : Violation) : String := s!"{pathText v.path}: {v.cause.text}"

abbrev Rule := Path → Value → List Violation

def ofType (allowed : List JsonType) : Rule := fun path v =>
  if allowed.any (·.holds v) then [] else [⟨path, .wrongType v allowed⟩]

def requires (keys : List String) : Rule := fun path v =>
  match v with
  | .object o => (keys.filter fun key => !Object.contains o key).map fun key => ⟨path, .missingKey key⟩
  | _ => []

def under (key : String) (rule : Rule) : Rule := fun path v =>
  match v.get? key with
  | some part => rule (path ++ [.key key]) part
  | none => []

def each (rule : Rule) : Rule := fun path v =>
  match v with
  | .array items => (items.mapIdx fun i item => rule (path ++ [.index i]) item).flatten
  | _ => []

def nonEmptyText : Rule := fun path v =>
  match v with
  | .string "" => [⟨path, .emptyText⟩]
  | _ => []

def oneOf (allowed : List String) : Rule := fun path v =>
  match v with
  | .string s => if allowed.contains s then [] else [⟨path, .notOneOf v allowed⟩]
  | _ => [⟨path, .notOneOf v allowed⟩]

def all (rules : List Rule) : Rule := fun path v => rules.flatMap fun rule => rule path v

def nameRule : Rule := all [ofType [.string], nonEmptyText]

def property : Rule := all [
  ofType [.object],
  requires ["name", "dataType"],
  under "name" nameRule,
  under "dataType" (ofType [.string]),
  under "description" (ofType [.string])]

def enumValue : Rule := all [
  ofType [.object],
  requires ["name", "value"],
  under "name" nameRule,
  under "value" (ofType [.boolean, .number, .string])]

def enumShape : Rule := all [
  requires ["dataType", "values"],
  under "dataType" (ofType [.string]),
  under "values" (all [ofType [.array], each enumValue])]

def classShape : Rule := under "properties" (all [ofType [.array], each property])

def saysEnum (v : Value) : Bool :=
  match v.get? "type" with
  | some (.string s) => s == "enum"
  | _ => false

def entry : Rule := all [
  ofType [.object],
  requires ["name"],
  under "name" nameRule,
  under "type" (oneOf ["class", "enum"]),
  fun path v => if saysEnum v then enumShape path v else classShape path v]

def document : Rule := all [
  ofType [.object],
  requires ["dataTypes"],
  under "version" (ofType [.number, .string]),
  under "dataTypes" (all [ofType [.array], each entry])]

def violations (v : Value) : List Violation := document [] v

end SchemaForge.Structure
