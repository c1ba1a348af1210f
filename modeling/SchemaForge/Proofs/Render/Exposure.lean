import SchemaForge.Proofs.Json.Keys
import SchemaForge.Render.Context

/-! What a template sees of a data type. The fields of a context stand under their keys whatever the
extras say, so that no extra can pass for the raw type of a property or of an enum. -/

namespace SchemaForge

open Json (Value Object)

theorem overlay_cons (o : Object) (e : String × Value) (fields : List (String × Value)) :
    overlay o (e :: fields) = overlay (Object.insert o e.1 e.2) fields := rfl

theorem get?_overlay (o : Object) {fields : List (String × Value)}
    (distinct : Object.Distinct fields) (key : String) :
    Object.get? (overlay o fields) key = (Object.get? fields key).or (Object.get? o key) := by
  induction fields generalizing o with
  | nil => rfl
  | cons e fields ih =>
    obtain ⟨fresh, rest⟩ := List.nodup_cons.mp distinct
    rw [overlay_cons, ih _ rest, Object.get?_insert, Object.get?_cons]
    by_cases hkey : key = e.1
    · have absent : Object.get? fields key = none := Object.get?_eq_none.mpr (hkey ▸ fresh)
      rw [if_pos hkey, if_pos hkey, absent]
      rfl
    · rw [if_neg hkey, if_neg hkey]

theorem Property.contextFields_distinct (p : Property) : Object.Distinct p.contextFields := by
  have keys : ["name", "dataType", "isCollection", "isOptional", "rawDataType",
      "description"].Nodup := by decide
  unfold Property.contextFields
  cases p.description with
  | none => exact keys.sublist (List.sublist_append_left _ ["description"])
  | some d => exact keys

namespace DataType

theorem contextFields_distinct (d : DataType) : Object.Distinct d.contextFields := by
  cases d with
  | cls c =>
    have keys : ["name", "type", "isClass", "isEnum", "properties"].Nodup := by decide
    exact keys
  | enum e =>
    have keys : ["name", "type", "isClass", "isEnum", "dataType", "rawDataType", "values"].Nodup := by
      decide
    exact keys

/-- The raw types that the context of a data type shows: at each property of a class, and at an enum
itself. -/
def shownTypes (d : DataType) : List Value :=
  match d with
  | .cls _ => (Object.items d.context "properties").filterMap (·.get? "rawDataType")
  | .enum _ => (Object.get? d.context "rawDataType").toList

end DataType

theorem Property.get?_rawDataType (p : Property) :
    p.context.get? "rawDataType" = some (.string p.dataType.raw) := by
  change Object.get? (overlay p.extra p.contextFields) "rawDataType" = _
  rw [get?_overlay _ p.contextFields_distinct]
  rfl

namespace DataType

theorem items_properties (c : ClassType) :
    Object.items (context (.cls c)) "properties" = c.properties.map Property.context := by
  apply Object.items_eq
  rw [context, get?_overlay _ (contextFields_distinct _)]
  rfl

theorem shownTypes_eq (d : DataType) : d.shownTypes = d.referencedTypes.map Value.string := by
  cases d with
  | cls c =>
    rw [shownTypes, items_properties, referencedTypes, List.filterMap_map, List.map_map,
      ← List.filterMap_eq_map]
    exact List.filterMap_congr fun p _ => p.get?_rawDataType
  | enum e =>
    rw [shownTypes, context, get?_overlay _ (contextFields_distinct _)]
    rfl

end DataType

end SchemaForge
