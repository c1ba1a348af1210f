import SchemaForge.DataType.Basic

/-! What a template sees of a data type: its extras, with the modeled and derived fields laid over
them. A field whose key an extra already has takes the extra's place. -/

namespace SchemaForge

open Json (Value Object)

def overlay (extra : Object) (fields : List (String × Value)) : Object :=
  fields.foldl (fun o e => Object.insert o e.1 e.2) extra

def Property.contextFields (p : Property) : List (String × Value) :=
  [("name", .string p.name), ("dataType", .string p.dataType.text),
    ("isCollection", .bool p.dataType.collection), ("isOptional", .bool p.dataType.optional),
    ("rawDataType", .string p.dataType.raw)] ++
  match p.description with
  | some d => [("description", .string d)]
  | none => []

def Property.context (p : Property) : Value := .object (overlay p.extra p.contextFields)

def EnumValue.contextFields (v : EnumValue) : List (String × Value) :=
  [("name", .string v.name), ("value", .string v.value)]

def EnumValue.context (v : EnumValue) : Value := .object (overlay v.extra v.contextFields)

namespace DataType

def contextFields (d : DataType) : List (String × Value) :=
  [("name", .string d.name), ("type", .string d.kind.text),
    ("isClass", .bool (d.kind == .cls)), ("isEnum", .bool (d.kind == .enum))] ++
  match d with
  | .cls c => [("properties", .array (c.properties.map Property.context))]
  | .enum e =>
    [("dataType", .string e.dataType.text), ("rawDataType", .string e.dataType.raw),
      ("values", .array (e.values.map EnumValue.context))]

def context (d : DataType) : Object := overlay d.extra d.contextFields

end DataType

end SchemaForge
