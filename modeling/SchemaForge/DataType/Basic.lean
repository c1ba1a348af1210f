import SchemaForge.TypeExpr
import SchemaForge.Json.Value

/-! Data types: classes with properties and enums with values. Every part keeps the document's keys
that have no meaning here as its extras. -/

namespace SchemaForge

inductive Kind where
  | cls
  | enum
  deriving DecidableEq, Repr, Inhabited

def Kind.text : Kind → String
  | .cls => "class"
  | .enum => "enum"

def Kind.parse? (s : String) : Option Kind :=
  if s = "class" then some .cls else if s = "enum" then some .enum else none

structure Property where
  name : String
  dataType : TypeExpr
  description : Option String
  extra : Json.Object
  deriving Inhabited, Repr

def Property.plain (name : String) (dataType : TypeExpr) : Property := ⟨name, dataType, none, []⟩

structure EnumValue where
  name : String
  value : String
  extra : Json.Object
  deriving Inhabited, Repr

def EnumValue.plain (name value : String) : EnumValue := ⟨name, value, []⟩

structure ClassType where
  name : String
  properties : List Property
  extra : Json.Object
  deriving Inhabited, Repr

def ClassType.plain (name : String) (properties : List Property) : ClassType :=
  ⟨name, properties, []⟩

structure EnumType where
  name : String
  dataType : TypeExpr
  values : List EnumValue
  extra : Json.Object
  deriving Inhabited, Repr

def EnumType.plain (name raw : String) (values : List EnumValue) : EnumType :=
  ⟨name, ⟨raw, false, false⟩, values, []⟩

inductive DataType where
  | cls (c : ClassType)
  | enum (e : EnumType)
  deriving Inhabited, Repr

namespace DataType

def name : DataType → String
  | .cls c => c.name
  | .enum e => e.name

def kind : DataType → Kind
  | .cls _ => .cls
  | .enum _ => .enum

def extra : DataType → Json.Object
  | .cls c => c.extra
  | .enum e => e.extra

def memberNames : DataType → List String
  | .cls c => c.properties.map (·.name)
  | .enum e => e.values.map (·.name)

def memberCount (d : DataType) : Nat := d.memberNames.length

/-- The raw type names that the data type rests on, in the order of its members. -/
def referencedTypes : DataType → List String
  | .cls c => c.properties.map (·.dataType.raw)
  | .enum e => [e.dataType.raw]

def alphabetize : DataType → DataType
  | .cls c => .cls { c with properties := c.properties.mergeSort (fun a b => a.name ≤ b.name) }
  | .enum e => .enum { e with values := e.values.mergeSort (fun a b => a.name ≤ b.name) }

def firstRepeat? (seen : List String) : List String → Option String
  | [] => none
  | name :: rest => if seen.contains name then some name else firstRepeat? (name :: seen) rest

def duplicateMember? (d : DataType) : Option String := firstRepeat? [] d.memberNames

end DataType

end SchemaForge
