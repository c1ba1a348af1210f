import SchemaForge.DataType.Basic

/-! Data types to JSON: the fields in their order, then the extras. -/

namespace SchemaForge

open Json (Value Object)

def Property.toJson (p : Property) : Value :=
  .object ([("name", .string p.name), ("dataType", .string p.dataType.text)] ++
    (match p.description with
      | some d => [("description", .string d)]
      | none => []) ++ p.extra)

def EnumValue.toJson (v : EnumValue) : Value :=
  .object ([("name", .string v.name), ("value", .string v.value)] ++ v.extra)

def ClassType.toJson (c : ClassType) : Value :=
  .object ([("name", .string c.name), ("properties", .array (c.properties.map Property.toJson))] ++
    c.extra)

def EnumType.toJson (e : EnumType) : Value :=
  .object ([("name", .string e.name), ("dataType", .string e.dataType.text),
    ("values", .array (e.values.map EnumValue.toJson))] ++ e.extra)

def DataType.toJson : DataType → Value
  | .cls c => c.toJson
  | .enum e => e.toJson

end SchemaForge
