import SchemaForge.Proofs.Render.Transparency

/-! How a context is laid out. The keys of the extras come first and keep their places, whether a field
takes their values or not; the fields whose keys no extra has follow in their own order. -/

namespace SchemaForge

open Json (Object Value)

theorem keys_overlay (extra : Object) {fields : List (String × Value)}
    (distinct : Object.Distinct fields) :
    Object.keys (overlay extra fields) = Object.keys extra ++
      (Object.keys fields).filter fun key => decide (key ∉ Object.keys extra) := by
  induction fields generalizing extra with
  | nil => exact (List.append_nil _).symm
  | cons e fields ih =>
    obtain ⟨fresh, rest⟩ := List.nodup_cons.mp distinct
    have keys : Object.keys (e :: fields) = e.1 :: Object.keys fields := rfl
    rw [overlay_cons, ih _ rest, Object.keys_insert, keys]
    by_cases clash : e.1 ∈ Object.keys extra
    · rw [if_pos clash, List.filter_cons_of_neg (by simpa using clash)]
    · rw [if_neg clash, List.filter_cons_of_pos (by simpa using clash), List.append_assoc]
      -- The key has just been added, and no later field has it again.
      have same : ∀ key ∈ Object.keys fields,
          decide (key ∉ Object.keys extra ++ [e.1]) = decide (key ∉ Object.keys extra) := by
        intro key hkey
        have other : key ≠ e.1 := by
          rintro rfl
          exact fresh hkey
        simp [other]
      rw [List.filter_congr same]
      rfl

/-- Fields laid over extras: every field is there, every other key has the value that the extras give
it, and the keys stand in the order of the extras, those of the remaining fields behind them. -/
structure LaidOver (extra : Object) (fields : List (String × Value)) (shown : Object) : Prop where
  field : ∀ key v, (key, v) ∈ fields → Object.get? shown key = some v
  rest : ∀ key, key ∉ Object.keys fields → Object.get? shown key = Object.get? extra key
  keys : Object.keys shown = Object.keys extra ++
    (Object.keys fields).filter fun key => decide (key ∉ Object.keys extra)

theorem laidOver_overlay (extra : Object) {fields : List (String × Value)}
    (distinct : Object.Distinct fields) : LaidOver extra fields (overlay extra fields) where
  field key v h := by
    rw [get?_overlay _ distinct, (Object.get?_eq_some distinct).mpr h]
    rfl
  rest key h := by
    rw [get?_overlay _ distinct, Object.get?_eq_none.mpr h]
    rfl
  keys := keys_overlay extra distinct

/-- The view of a property; it has a description only if the property has one. -/
def Property.ViewedAs (p : Property) (v : Value) : Prop :=
  ∃ shown, v = .object shown ∧ LaidOver p.extra
    ([("name", .string p.name), ("dataType", .string p.dataType.text),
      ("isCollection", .bool p.dataType.collection), ("isOptional", .bool p.dataType.optional),
      ("rawDataType", .string p.dataType.raw)] ++
      p.description.toList.map fun d => ("description", .string d)) shown

def EnumValue.ViewedAs (x : EnumValue) (v : Value) : Prop :=
  ∃ shown, v = .object shown ∧
    LaidOver x.extra [("name", .string x.name), ("value", .string x.value)] shown

def ClassType.ViewedAs (c : ClassType) (shown : Object) : Prop :=
  ∃ members, List.Forall₂ Property.ViewedAs c.properties members ∧ LaidOver c.extra
    [("name", .string c.name), ("type", .string "class"), ("isClass", .bool true),
      ("isEnum", .bool false), ("properties", .array members)] shown

def EnumType.ViewedAs (e : EnumType) (shown : Object) : Prop :=
  ∃ members, List.Forall₂ EnumValue.ViewedAs e.values members ∧ LaidOver e.extra
    [("name", .string e.name), ("type", .string "enum"), ("isClass", .bool false),
      ("isEnum", .bool true), ("dataType", .string e.dataType.text),
      ("rawDataType", .string e.dataType.raw), ("values", .array members)] shown

theorem Property.contextFields_eq (p : Property) : p.contextFields =
    [("name", .string p.name), ("dataType", .string p.dataType.text),
      ("isCollection", .bool p.dataType.collection), ("isOptional", .bool p.dataType.optional),
      ("rawDataType", .string p.dataType.raw)] ++
      p.description.toList.map fun d => ("description", .string d) := by
  unfold contextFields
  cases p.description <;> rfl

theorem Property.viewedAs_context (p : Property) : p.ViewedAs p.context :=
  ⟨_, rfl, p.contextFields_eq ▸ laidOver_overlay p.extra p.contextFields_distinct⟩

theorem EnumValue.viewedAs_context (x : EnumValue) : x.ViewedAs x.context :=
  ⟨_, rfl, laidOver_overlay x.extra x.contextFields_distinct⟩

theorem forall₂_map_self {α β : Type} {R : α → β → Prop} {f : α → β} (h : ∀ a, R a (f a))
    (items : List α) : List.Forall₂ R items (items.map f) :=
  List.forall₂_map_right_iff.mpr (List.forall₂_same.mpr fun a _ => h a)

namespace DataType

def ViewedAs : DataType → Object → Prop
  | .cls c => c.ViewedAs
  | .enum e => e.ViewedAs

/-- The context of a data type is the view of it laid over its extras, whatever keys these have, and
so are the contexts of its members inside of it. -/
theorem context_lays_view_over_extras (d : DataType) : d.ViewedAs d.context := by
  have laid := laidOver_overlay d.extra d.contextFields_distinct
  cases d with
  | cls c => exact ⟨_, forall₂_map_self Property.viewedAs_context c.properties, laid⟩
  | enum e => exact ⟨_, forall₂_map_self EnumValue.viewedAs_context e.values, laid⟩

end DataType

end SchemaForge
