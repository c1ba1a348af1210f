import SchemaForge.DataType.Encode
import SchemaForge.Proofs.DataType.Fields
import SchemaForge.Proofs.TypeExpr.Inverse

/-! Reading data types from JSON and writing them undo each other. What is written is read back. What was
read is written in one arrangement: the keys that have a meaning stand first, in the order of the fields,
and the other keys follow as they stood. -/

namespace SchemaForge.Decode

open Json (Object Value)
open TypeExpr (IsName)
open Outcome (bind_eq_ok foldlM_cons_eq_ok map_eq_ok pure_eq_ok)

/-- A key that has a meaning. What is written under it depends on what stood there, if anything did. -/
structure Field where
  key : String
  written : Option Value → Option Value

def Field.kept (key : String) : Field := ⟨key, id⟩

def Field.entry (o : Object) (f : Field) : Option (String × Value) :=
  (f.written (Object.get? o f.key)).map (f.key, ·)

def arrange (fields : List Field) (o : Object) : Object :=
  fields.filterMap (Field.entry o) ++ o.filter fun e => decide (e.1 ∉ fields.map Field.key)

def arranged (fields : List Field) : Value → Value
  | .object o => .object (arrange fields o)
  | v => v

def dropNull : Option Value → Option Value
  | some .null => none
  | v? => v?

def literalAsText : Value → Value
  | .number n => .string n.text
  | .bool b => .string (if b then "true" else "false")
  | v => v

def eachItem (f : Value → Value) : Value → Value
  | .array items => .array (items.map f)
  | v => v

def propertyFields : List Field := [.kept "name", .kept "dataType", ⟨"description", dropNull⟩]

def enumValueFields : List Field := [.kept "name", ⟨"value", Option.map literalAsText⟩]

/-- A class without properties is written with an empty list of them. -/
def classFields : List Field := [.kept "name",
  ⟨"properties", fun v? => some (eachItem (arranged propertyFields) (v?.getD (.array [])))⟩]

def enumFields : List Field := [.kept "name", .kept "dataType",
  ⟨"values", Option.map (eachItem (arranged enumValueFields))⟩]

def Free (modeled : List String) (extra : Object) : Prop := ∀ e ∈ extra, e.1 ∉ modeled

structure PropertyLegal (p : Property) : Prop where
  dataType : IsName p.dataType.raw
  extra : Free propertyKeys p.extra

def EnumValueLegal (x : EnumValue) : Prop := Free enumValueKeys x.extra

structure ClassLegal (c : ClassType) : Prop where
  properties : ∀ p ∈ c.properties, PropertyLegal p
  extra : Free classKeys c.extra

structure EnumLegal (x : EnumType) : Prop where
  dataType : IsName x.dataType.raw
  values : ∀ y ∈ x.values, EnumValueLegal y
  extra : Free enumKeys x.extra

/-- Reading undoes writing on everything legal, and writing undoes reading up to the arrangement: only
objects are read, and what one is read as is read again from what is written of it. -/
structure Inverse {α : Type} (write : α → Value) (read : Value → Result α) (Legal : α → Prop)
    (fields : List Field) : Prop where
  read_write : ∀ a, Legal a → read (write a) = .ok a
  write_read : ∀ v a, v.WellKeyed → read v = .ok a →
    ∃ o, v = .object o ∧ write a = .object (arrange fields o)
  legal : ∀ v a, v.WellKeyed → read v = .ok a → Legal a
  reread : ∀ v a, v.WellKeyed → read v = .ok a → read (write a) = .ok a

section Inverse

variable {α : Type} {write : α → Value} {read : Value → Result α} {Legal : α → Prop}
  {fields : List Field}

theorem Inverse.of_legal (read_write : ∀ a, Legal a → read (write a) = .ok a)
    (write_read : ∀ v a, v.WellKeyed → read v = .ok a →
      Legal a ∧ ∃ o, v = .object o ∧ write a = .object (arrange fields o)) :
    Inverse write read Legal fields where
  read_write := read_write
  write_read v a hkeys h := (write_read v a hkeys h).2
  legal v a hkeys h := (write_read v a hkeys h).1
  reread v a hkeys h := read_write a (write_read v a hkeys h).1

theorem Inverse.list_read (inverse : Inverse write read Legal fields) {items : List α}
    (legal : ∀ a ∈ items, Legal a) : list read (.array (items.map write)) = .ok items := by
  refine Outcome.mapM_eq_ok.mpr (List.forall₂_map_left_iff.mpr (List.forall₂_same.mpr ?_))
  exact fun a ha => inverse.read_write a (legal a ha)

theorem Inverse.list_legal (inverse : Inverse write read Legal fields) {items : List Value}
    {out : List α} (hkeys : ∀ v ∈ items, v.WellKeyed)
    (h : List.Forall₂ (fun v a => read v = .ok a) items out) : ∀ a ∈ out, Legal a := by
  intro a ha
  obtain ⟨v, hv, hread⟩ := Outcome.exists_of_mem_right h ha
  exact inverse.legal v a (hkeys v hv) hread

theorem Inverse.list_write (inverse : Inverse write read Legal fields) {items : List Value}
    {out : List α} (hkeys : ∀ v ∈ items, v.WellKeyed)
    (h : List.Forall₂ (fun v a => read v = .ok a) items out) :
    out.map write = items.map (arranged fields) := by
  induction h with
  | nil => rfl
  | @cons v a _ _ hread _ ih =>
    obtain ⟨o, rfl, hwrite⟩ := inverse.write_read v a (hkeys _ List.mem_cons_self) hread
    rw [List.map_cons, List.map_cons, hwrite, ih fun w hw => hkeys w (List.mem_cons_of_mem _ hw)]
    rfl

end Inverse

theorem typeExpr_text {t : TypeExpr} (h : IsName t.raw) : typeExpr (.string t.text) = .ok t :=
  typeExpr_eq_ok.mpr ⟨t.text, rfl, TypeExpr.parse_text (TypeExpr.nameLegal_iff_isName.mpr h)⟩

theorem foldlM_free {F : Type} {step : F → String × Value → Result F} {modeled : List String}
    (put : F → Object → F) (nil : ∀ f, put f [] = f)
    (append : ∀ f e extra, put (put f [e]) extra = put f (e :: extra))
    (one : ∀ f e, e.1 ∉ modeled → step f e = .ok (put f [e])) {extra : Object}
    (free : Free modeled extra) (f : F) : extra.foldlM step f = .ok (put f extra) := by
  induction extra generalizing f with
  | nil => exact congrArg Except.ok (nil f).symm
  | cons e extra ih =>
    refine foldlM_cons_eq_ok.mpr ⟨put f [e], one f e (free e List.mem_cons_self), ?_⟩
    rw [ih (fun e he => free e (List.mem_cons_of_mem _ he)), append]

theorem PropertyFields.foldlM_extra {extra : Object} (free : Free propertyKeys extra)
    (f : PropertyFields) :
    extra.foldlM step f = .ok { f with extra := f.extra ++ extra } := by
  refine foldlM_free (fun f extra => { f with extra := f.extra ++ extra })
    (by simp) (by simp) (fun f e he => ?_) free f
  simp only [propertyKeys, List.mem_cons, List.not_mem_nil, or_false, not_or] at he
  simp only [step, add, if_neg he.1, if_neg he.2.1, if_neg he.2.2]

theorem property_toJson (p : Property) (legal : PropertyLegal p) : property p.toJson = .ok p := by
  obtain ⟨name, dataType, description, extra⟩ := p
  have extras := PropertyFields.foldlM_extra legal.extra
  have typed (f : PropertyFields) :
      f.step ("dataType", .string dataType.text) = .ok { f with dataType := some dataType } :=
    map_eq_ok.mpr ⟨dataType, typeExpr_text legal.dataType, rfl⟩
  unfold property
  simp only [bind_eq_ok, object_eq_ok, required_eq_ok, pure_eq_ok]
  refine ⟨_, rfl, ⟨some name, some dataType, description.map some, extra⟩, ?_, _, rfl, _, rfl, ?_⟩
  · refine foldlM_cons_eq_ok.mpr ⟨⟨some name, none, none, []⟩, rfl, ?_⟩
    refine foldlM_cons_eq_ok.mpr ⟨⟨some name, some dataType, none, []⟩, typed _, ?_⟩
    cases description with
    | none => exact extras _
    | some d => exact foldlM_cons_eq_ok.mpr ⟨_, rfl, extras _⟩
  · cases description <;> rfl

theorem EnumValueFields.foldlM_extra {extra : Object} (free : Free enumValueKeys extra)
    (f : EnumValueFields) :
    extra.foldlM step f = .ok { f with extra := f.extra ++ extra } := by
  refine foldlM_free (fun f extra => { f with extra := f.extra ++ extra })
    (by simp) (by simp) (fun f e he => ?_) free f
  simp only [enumValueKeys, List.mem_cons, List.not_mem_nil, or_false, not_or] at he
  simp only [step, add, if_neg he.1, if_neg he.2]

theorem enumValue_toJson (x : EnumValue) (legal : EnumValueLegal x) :
    enumValue x.toJson = .ok x := by
  have extras := EnumValueFields.foldlM_extra legal
  unfold enumValue
  simp only [bind_eq_ok, object_eq_ok, required_eq_ok, pure_eq_ok]
  refine ⟨_, rfl, ⟨some x.name, some x.value, x.extra⟩, ?_, _, rfl, _, rfl, rfl⟩
  exact foldlM_cons_eq_ok.mpr ⟨_, rfl, foldlM_cons_eq_ok.mpr ⟨_, rfl, extras _⟩⟩

theorem ClassFields.foldlM_extra {extra : Object} (free : Free classKeys extra) (f : ClassFields) :
    extra.foldlM step f = .ok { f with extra := f.extra ++ extra } := by
  refine foldlM_free (fun f extra => { f with extra := f.extra ++ extra })
    (by simp) (by simp) (fun f e he => ?_) free f
  simp only [classKeys, List.mem_cons, List.not_mem_nil, or_false, not_or] at he
  simp only [step, add, if_neg he.1, if_neg he.2]

theorem EnumFields.foldlM_extra {extra : Object} (free : Free enumKeys extra) (f : EnumFields) :
    extra.foldlM step f = .ok { f with extra := f.extra ++ extra } := by
  refine foldlM_free (fun f extra => { f with extra := f.extra ++ extra })
    (by simp) (by simp) (fun f e he => ?_) free f
  simp only [enumKeys, List.mem_cons, List.not_mem_nil, or_false, not_or] at he
  simp only [step, add, if_neg he.1, if_neg he.2.1, if_neg he.2.2]

theorem free_filter (modeled : List String) (o : Object) :
    Free modeled (o.filter fun e => decide (e.1 ∉ modeled)) :=
  fun _ he => of_decide_eq_true (List.mem_filter.mp he).2

theorem get?_dataType {o : Object} {t : TypeExpr}
    (h : ∃ s, Object.get? o "dataType" = some (.string s) ∧ TypeExpr.parse s = .ok t) :
    Object.get? o "dataType" = some (.string t.text) ∧ IsName t.raw := by
  obtain ⟨s, hs, hparse⟩ := h
  obtain ⟨rfl, legal⟩ := TypeExpr.of_parse hparse
  exact ⟨hs, TypeExpr.nameLegal_iff_isName.mp legal⟩

theorem dropNull_of_textOrNull {v : Value} {d : Option String} (h : textOrNull v = .ok d) :
    dropNull (some v) = d.map Value.string := by
  cases v with
  | null =>
    cases h
    rfl
  | string s =>
    cases h
    rfl
  | _ => cases h

theorem literalAsText_of_literal {v : Value} {s : String} (h : literal v = .ok s) :
    literalAsText v = .string s := by
  cases v with
  | array | object | null => cases h
  | _ =>
    cases h
    rfl

theorem dropNull_description {o : Object} {p : Property} (distinct : Object.Distinct o)
    (h : property (.object o) = .ok p) :
    dropNull (Object.get? o "description") = p.description.map Value.string := by
  unfold property at h
  simp only [bind_eq_ok, object_eq_ok, required_eq_ok, pure_eq_ok] at h
  obtain ⟨_, ⟨⟩, f, hf, _, -, _, -, rfl⟩ := h
  cases hv : Object.get? o "description" with
  | none =>
    have absent := PropertyFields.sets_description.untouched (Object.get?_eq_none.mp hv) hf
    simp only [absent]
    rfl
  | some v =>
    obtain ⟨d, hread, hd⟩ := PropertyFields.sets_description.of_get? distinct hv hf
    simp only [hd]
    exact dropNull_of_textOrNull hread

theorem arrange_eq {fields : List Field} {o front extra : Object}
    (hfront : fields.filterMap (Field.entry o) = front)
    (hextra : extra = o.filter fun e => decide (e.1 ∉ fields.map Field.key)) :
    front ++ extra = arrange fields o := by
  rw [arrange, hfront, hextra]

section Entry

variable {o : Object} {key : String} {written : Option Value → Option Value} {v : Value}

theorem entry_some (h : written (Object.get? o key) = some v) :
    Field.entry o ⟨key, written⟩ = some (key, v) :=
  congrArg (Option.map (key, ·)) h

theorem entry_none (h : written (Object.get? o key) = none) :
    Field.entry o ⟨key, written⟩ = none :=
  congrArg (Option.map (key, ·)) h

theorem entry_kept (h : Object.get? o key = some v) :
    Field.entry o (.kept key) = some (key, v) := entry_some h

end Entry

theorem property_inverse : Inverse Property.toJson property PropertyLegal propertyFields := by
  refine .of_legal property_toJson fun v p hkeys h => ?_
  obtain ⟨o, rfl, fields⟩ := propertyFrom_of_ok h
  have fields := fields hkeys.distinct
  obtain ⟨typed, legal⟩ := get?_dataType fields.dataType
  have described := dropNull_description hkeys.distinct h
  have free : Free propertyKeys p.extra := fields.extra ▸ free_filter propertyKeys o
  refine ⟨⟨legal, free⟩, o, rfl, congrArg Value.object (arrange_eq ?_ fields.extra)⟩
  rw [propertyFields, List.filterMap_cons_some (entry_kept fields.name),
    List.filterMap_cons_some (entry_kept typed)]
  cases hd : p.description with
  | none =>
    rw [List.filterMap_cons_none (entry_none (described.trans (by rw [hd]; rfl)))]
    rfl
  | some d =>
    rw [List.filterMap_cons_some (entry_some (described.trans (by rw [hd]; rfl)))]
    rfl

theorem enumValue_inverse :
    Inverse EnumValue.toJson enumValue EnumValueLegal enumValueFields := by
  refine .of_legal enumValue_toJson fun v x hkeys h => ?_
  obtain ⟨o, rfl, fields⟩ := enumValueFrom_of_ok h
  have fields := fields hkeys.distinct
  obtain ⟨w, hw, hliteral⟩ := fields.value
  have free : Free enumValueKeys x.extra := fields.extra ▸ free_filter enumValueKeys o
  refine ⟨free, o, rfl, congrArg Value.object (arrange_eq ?_ fields.extra)⟩
  have valued : (Object.get? o "value").map literalAsText = some (.string x.value) := by
    rw [hw, Option.map_some, literalAsText_of_literal hliteral]
  rw [enumValueFields, List.filterMap_cons_some (entry_kept fields.name),
    List.filterMap_cons_some (entry_some valued)]
  rfl

theorem classType_toJson (c : ClassType) (legal : ClassLegal c) : classType c.toJson = .ok c := by
  have extras := ClassFields.foldlM_extra legal.extra
  have listed : ClassFields.step ⟨some c.name, none, []⟩
      ("properties", .array (c.properties.map Property.toJson)) =
      .ok ⟨some c.name, some c.properties, []⟩ :=
    map_eq_ok.mpr ⟨c.properties, property_inverse.list_read legal.properties, rfl⟩
  unfold classType
  simp only [bind_eq_ok, object_eq_ok, required_eq_ok, pure_eq_ok]
  refine ⟨_, rfl, ⟨some c.name, some c.properties, c.extra⟩, ?_, _, rfl, rfl⟩
  exact foldlM_cons_eq_ok.mpr ⟨_, rfl, foldlM_cons_eq_ok.mpr ⟨_, listed, extras _⟩⟩

theorem enumType_toJson (x : EnumType) (legal : EnumLegal x) : enumType x.toJson = .ok x := by
  have extras := EnumFields.foldlM_extra legal.extra
  have typed : EnumFields.step ⟨some x.name, none, none, []⟩ ("dataType", .string x.dataType.text) =
      .ok ⟨some x.name, some x.dataType, none, []⟩ :=
    map_eq_ok.mpr ⟨x.dataType, typeExpr_text legal.dataType, rfl⟩
  have listed : EnumFields.step ⟨some x.name, some x.dataType, none, []⟩
      ("values", .array (x.values.map EnumValue.toJson)) =
      .ok ⟨some x.name, some x.dataType, some x.values, []⟩ :=
    map_eq_ok.mpr ⟨x.values, enumValue_inverse.list_read legal.values, rfl⟩
  unfold enumType
  simp only [bind_eq_ok, object_eq_ok, required_eq_ok, pure_eq_ok]
  refine ⟨_, rfl, ⟨some x.name, some x.dataType, some x.values, x.extra⟩, ?_,
    _, rfl, _, rfl, _, rfl, rfl⟩
  refine foldlM_cons_eq_ok.mpr ⟨_, rfl, foldlM_cons_eq_ok.mpr ⟨_, typed, ?_⟩⟩
  exact foldlM_cons_eq_ok.mpr ⟨_, listed, extras _⟩

theorem Sets.array {F A : Type} {step : F → String × Value → Result F} {key : String}
    {field : F → Option (List A)} {item : Value → Result A} (h : Sets step key field (list item))
    {o : Object} (distinct : Object.Distinct o) {f f' : F} (hf : o.foldlM step f = .ok f')
    {v : Value} (hv : Object.get? o key = some v) : v = .array (Object.items o key) := by
  obtain ⟨_, hread, -⟩ := h.of_get? distinct hv hf
  obtain ⟨items, rfl, -⟩ := list_eq_ok.mp hread
  rw [Object.items_eq hv]

theorem getD_properties {o : Object} {c : ClassType} (distinct : Object.Distinct o)
    (h : classType (.object o) = .ok c) :
    (Object.get? o "properties").getD (.array []) = .array (Object.items o "properties") := by
  unfold classType at h
  simp only [bind_eq_ok, object_eq_ok] at h
  obtain ⟨_, ⟨⟩, f, hf, -⟩ := h
  cases hv : Object.get? o "properties" with
  | none => rw [Object.items_eq_nil hv, Option.getD_none]
  | some v => exact ClassFields.sets_properties.array distinct hf hv

theorem get?_values {o : Object} {x : EnumType} (distinct : Object.Distinct o)
    (h : enumType (.object o) = .ok x) :
    Object.get? o "values" = some (.array (Object.items o "values")) := by
  unfold enumType at h
  simp only [bind_eq_ok, object_eq_ok, required_eq_ok] at h
  obtain ⟨_, ⟨⟩, f, hf, _, -, _, -, _, hvalues, -⟩ := h
  obtain ⟨v, hv, -⟩ := (EnumFields.sets_values.eq_some distinct rfl hf).mp hvalues
  rw [hv, EnumFields.sets_values.array distinct hf hv]

theorem classType_inverse : Inverse ClassType.toJson classType ClassLegal classFields := by
  refine .of_legal classType_toJson fun v c hkeys h => ?_
  obtain ⟨o, rfl, fields⟩ := classFrom_of_ok h
  have fields := fields hkeys.distinct
  have itemKeys := fun v (hv : v ∈ Object.items o "properties") => hkeys.of_mem_items hv
  have free : Free classKeys c.extra := fields.extra ▸ free_filter classKeys o
  refine ⟨⟨property_inverse.list_legal itemKeys fields.properties, free⟩, o, rfl,
    congrArg Value.object (arrange_eq ?_ fields.extra)⟩
  have listed : some (eachItem (arranged propertyFields)
      ((Object.get? o "properties").getD (.array []))) =
      some (.array (c.properties.map Property.toJson)) := by
    rw [getD_properties hkeys.distinct h, eachItem,
      property_inverse.list_write itemKeys fields.properties]
  rw [classFields, List.filterMap_cons_some (entry_kept fields.name),
    List.filterMap_cons_some (entry_some listed)]
  rfl

theorem enumType_inverse : Inverse EnumType.toJson enumType EnumLegal enumFields := by
  refine .of_legal enumType_toJson fun v x hkeys h => ?_
  obtain ⟨o, rfl, fields⟩ := enumFrom_of_ok h
  have fields := fields hkeys.distinct
  obtain ⟨typed, legal⟩ := get?_dataType fields.dataType
  have itemKeys := fun v (hv : v ∈ Object.items o "values") => hkeys.of_mem_items hv
  have free : Free enumKeys x.extra := fields.extra ▸ free_filter enumKeys o
  refine ⟨⟨legal, enumValue_inverse.list_legal itemKeys fields.values, free⟩, o, rfl,
    congrArg Value.object (arrange_eq ?_ fields.extra)⟩
  have listed : (Object.get? o "values").map (eachItem (arranged enumValueFields)) =
      some (.array (x.values.map EnumValue.toJson)) := by
    rw [get?_values hkeys.distinct h, Option.map_some, eachItem,
      enumValue_inverse.list_write itemKeys fields.values]
  rw [enumFields, List.filterMap_cons_some (entry_kept fields.name),
    List.filterMap_cons_some (entry_kept typed), List.filterMap_cons_some (entry_some listed)]
  rfl

/-- Properties, enum values, classes and enums are read back from what is written of them, and written
anew they say what the object they were read from says, in the arrangement of their fields. -/
theorem decode_inverts_toJson :
    Inverse Property.toJson property PropertyLegal propertyFields ∧
      Inverse EnumValue.toJson enumValue EnumValueLegal enumValueFields ∧
      Inverse ClassType.toJson classType ClassLegal classFields ∧
      Inverse EnumType.toJson enumType EnumLegal enumFields :=
  ⟨property_inverse, enumValue_inverse, classType_inverse, enumType_inverse⟩

/-- An enum with a number for a value and its keys in an order of their own. -/
def moodObject : Object :=
  [("type", .string "enum"), ("dataType", .string "i32"),
    ("values", .array [.object [("value", .number (.int 1)), ("name", .string "Happy")]]),
    ("name", .string "Mood")]

def moodType : EnumType :=
  ⟨"Mood", ⟨"i32", false, false⟩, [⟨"Happy", "1", []⟩], [("type", .string "enum")]⟩

theorem wellKeyed_mood : (Value.object moodObject).WellKeyed := by
  have distinct : (Object.keys moodObject).Nodup := by decide
  refine .object distinct ?_
  have happy : (Value.object [("value", .number (.int 1)), ("name", .string "Happy")]).WellKeyed := by
    refine .object (show List.Nodup ["value", "name"] by decide) ?_
    simp only [List.forall_mem_cons]
    exact ⟨.number _, .string _, nofun⟩
  simp only [moodObject, List.forall_mem_cons]
  exact ⟨.string _, .string _, .array (List.forall_mem_cons.mpr ⟨happy, nofun⟩), .string _, nofun⟩

theorem decode_inverts_toJson_of_mood : enumType (.object moodObject) = .ok moodType ∧
    moodType.toJson = .object (arrange enumFields moodObject) ∧
    enumType moodType.toJson = .ok moodType := by
  have read : enumType (.object moodObject) = .ok moodType := rfl
  obtain ⟨-, -, -, inverse⟩ := decode_inverts_toJson
  obtain ⟨o, ⟨⟩, written⟩ := inverse.write_read _ _ wellKeyed_mood read
  exact ⟨read, written, inverse.reread _ _ wellKeyed_mood read⟩

example : arrange enumFields moodObject =
    [("name", .string "Mood"), ("dataType", .string "i32"),
      ("values", .array [.object [("name", .string "Happy"), ("value", .string "1")]]),
      ("type", .string "enum")] := rfl

end SchemaForge.Decode
