import SchemaForge.DataType.Basic
import SchemaForge.Json.Printer
import SchemaForge.Text.Listing

/-! Data types from JSON. Entries are read in document order and the first one that does not fit is
reported; keys that must be there are missed only after that, in the order of the fields. -/

namespace SchemaForge

inductive DecodeError where
  | wrongType (found : Json.Value) (expected : String)
  | missingField (name : String)
  | typeExpr (cause : TypeExpr.Error)
  | notLiteral (found : Json.Value)
  | unknownKind (name : String)
  | notSingleKey
  deriving Inhabited

namespace DecodeError

def describe : Json.Value → String
  | .null => "null"
  | .bool true => "boolean `true`"
  | .bool false => "boolean `false`"
  | .number (.int i) => s!"integer `{i}`"
  | .number (.float x) => s!"floating point `{Decimal.jsonText x}`"
  | .string s => "string " ++ Text.listed s
  | .array _ => "sequence"
  | .object _ => "map"

def message : DecodeError → String
  | .wrongType found expected => s!"invalid type: {describe found}, expected {expected}"
  | .missingField name => s!"missing field `{name}`"
  | .typeExpr cause => cause.message
  | .notLiteral found =>
    s!"enum value must be a string, number or boolean, found {found.text}"
  | .unknownKind name => s!"unknown variant `{name}`, expected `class` or `enum`"
  | .notSingleKey => "invalid value: map, expected map with a single key"

end DecodeError

namespace Decode

abbrev Result (α : Type) := Except DecodeError α

def string : Json.Value → Result String
  | .string s => .ok s
  | v => .error (.wrongType v "a string")

def list {α : Type} (item : Json.Value → Result α) : Json.Value → Result (List α)
  | .array items => items.mapM item
  | v => .error (.wrongType v "a sequence")

def typeExpr (v : Json.Value) : Result TypeExpr := do
  match TypeExpr.parse (← string v) with
  | .ok t => .ok t
  | .error e => .error (.typeExpr e)

def textOrNull : Json.Value → Result (Option String)
  | .null => .ok none
  | v => (string v).map some

/-- The text of a literal: a string itself, a number or truth value as JSON writes it. -/
def literal : Json.Value → Result String
  | .string s => .ok s
  | .number n => .ok n.text
  | .bool b => .ok (if b then "true" else "false")
  | v => .error (.notLiteral v)

def object (expected : String) : Json.Value → Result Json.Object
  | .object o => .ok o
  | v => .error (.wrongType v expected)

def required {α : Type} (name : String) : Option α → Result α
  | some a => .ok a
  | none => .error (.missingField name)

structure PropertyFields where
  name : Option String := none
  dataType : Option TypeExpr := none
  description : Option (Option String) := none
  extra : Json.Object := []

def PropertyFields.add (f : PropertyFields) (key : String) (v : Json.Value) :
    Result PropertyFields :=
  if key = "name" then (string v).map fun s => { f with name := some s }
  else if key = "dataType" then (typeExpr v).map fun t => { f with dataType := some t }
  else if key = "description" then (textOrNull v).map fun d => { f with description := some d }
  else .ok { f with extra := f.extra ++ [(key, v)] }

def property (v : Json.Value) : Result Property := do
  let o ← object "struct Property" v
  let f ← o.foldlM (fun f e => f.add e.1 e.2) ({} : PropertyFields)
  let name ← required "name" f.name
  let dataType ← required "dataType" f.dataType
  pure ⟨name, dataType, f.description.getD none, f.extra⟩

structure EnumValueFields where
  name : Option String := none
  value : Option String := none
  extra : Json.Object := []

def EnumValueFields.add (f : EnumValueFields) (key : String) (v : Json.Value) :
    Result EnumValueFields :=
  if key = "name" then (string v).map fun s => { f with name := some s }
  else if key = "value" then (literal v).map fun s => { f with value := some s }
  else .ok { f with extra := f.extra ++ [(key, v)] }

def enumValue (v : Json.Value) : Result EnumValue := do
  let o ← object "struct Value" v
  let f ← o.foldlM (fun f e => f.add e.1 e.2) ({} : EnumValueFields)
  let name ← required "name" f.name
  let value ← required "value" f.value
  pure ⟨name, value, f.extra⟩

structure ClassFields where
  name : Option String := none
  properties : Option (List Property) := none
  extra : Json.Object := []

def ClassFields.add (f : ClassFields) (key : String) (v : Json.Value) : Result ClassFields :=
  if key = "name" then (string v).map fun s => { f with name := some s }
  else if key = "properties" then
    (list property v).map fun ps => { f with properties := some ps }
  else .ok { f with extra := f.extra ++ [(key, v)] }

def classType (v : Json.Value) : Result ClassType := do
  let o ← object "struct Class" v
  let f ← o.foldlM (fun f e => f.add e.1 e.2) ({} : ClassFields)
  let name ← required "name" f.name
  pure ⟨name, f.properties.getD [], f.extra⟩

structure EnumFields where
  name : Option String := none
  dataType : Option TypeExpr := none
  values : Option (List EnumValue) := none
  extra : Json.Object := []

def EnumFields.add (f : EnumFields) (key : String) (v : Json.Value) : Result EnumFields :=
  if key = "name" then (string v).map fun s => { f with name := some s }
  else if key = "dataType" then (typeExpr v).map fun t => { f with dataType := some t }
  else if key = "values" then (list enumValue v).map fun vs => { f with values := some vs }
  else .ok { f with extra := f.extra ++ [(key, v)] }

def enumType (v : Json.Value) : Result EnumType := do
  let o ← object "struct Enum" v
  let f ← o.foldlM (fun f e => f.add e.1 e.2) ({} : EnumFields)
  let name ← required "name" f.name
  let dataType ← required "dataType" f.dataType
  let values ← required "values" f.values
  pure ⟨name, dataType, values, f.extra⟩

/-- A kind is its name, or an object with the name as its only key and nothing under it. -/
def kind : Json.Value → Result Kind
  | .string s => named s
  | .object [(key, inner)] => do
    let k ← named key
    match inner with
    | .null => pure k
    | v => .error (.wrongType v "unit")
  | .object _ => .error .notSingleKey
  | v => .error (.wrongType v "string or map")
where
  named (s : String) : Result Kind :=
    match Kind.parse? s with
    | some k => .ok k
    | none => .error (.unknownKind s)

end Decode

end SchemaForge
