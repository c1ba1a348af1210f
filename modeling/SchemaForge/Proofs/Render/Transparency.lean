import Mathlib
import SchemaForge.Proofs.Render.Exposure
import SchemaForge.Proofs.Schema.Language

/-! Templates see what documents say. A key of a document that has no meaning here has in the context
the value that it has in the document, at an entry and at each of its members; a key that has a meaning
has there what the document says, and only derived fields stand in the way of keys of their name. -/

namespace SchemaForge

open Json (Object Value)
open Structure (PropertyShape EnumValueShape ClassShape EnumShape EntryShape ObjectOf)

/-- The keys of an object stand in another with the same values, but for some keys. -/
def Kept (except : List String) (o shown : Object) : Prop :=
  ∀ key ∉ except, ∀ v, Object.get? o key = some v → Object.get? shown key = some v

theorem get?_extras (o : Object) (modeled : List String) (key : String) :
    Object.get? (o.filter fun e => decide (e.1 ∉ modeled)) key =
      if key ∈ modeled then none else Object.get? o key := by
  induction o with
  | nil => split <;> rfl
  | cons e o ih =>
    rw [List.filter_cons, Object.get?_cons]
    by_cases hkey : key = e.1
    · subst hkey
      by_cases hmodeled : e.1 ∈ modeled
      · simpa [hmodeled] using ih
      · simp [hmodeled, Object.get?_cons]
    · rw [if_neg hkey, ← ih]
      split
      · rw [Object.get?_cons, if_neg hkey]
      · rfl

/-- A key that is no exception is a field with the value of the document, or neither a field nor a key
that the extras leave out. -/
theorem kept_overlay {except modeled : List String} {fields : List (String × Value)} {o extra : Object}
    (distinct : Object.Distinct fields)
    (hextra : extra = o.filter fun e => decide (e.1 ∉ modeled))
    (h : ∀ key ∉ except, ∀ v, Object.get? o key = some v →
      Object.get? fields key = some v ∨ key ∉ Object.keys fields ∧ key ∉ modeled) :
    Kept except o (overlay extra fields) := by
  intro key hkey v hv
  rw [get?_overlay _ distinct, hextra, get?_extras]
  rcases h key hkey v hv with hfield | ⟨fresh, hmodeled⟩
  · rw [hfield]
    rfl
  · rw [Object.get?_eq_none.mpr fresh, if_neg hmodeled]
    exact hv

def derivedPropertyKeys : List String := ["isCollection", "isOptional", "rawDataType"]

structure PropertyShown (o shown : Object) : Prop where
  kept : Kept derivedPropertyKeys o shown
  derived : ∃ s t, Object.get? o "dataType" = some (.string s) ∧ TypeExpr.parse s = .ok t ∧
    Object.get? shown "isCollection" = some (.bool t.collection) ∧
    Object.get? shown "isOptional" = some (.bool t.optional) ∧
    Object.get? shown "rawDataType" = some (.string t.raw)

theorem Property.mem_keys_contextFields {p : Property} {key : String}
    (h : key ∈ Object.keys p.contextFields) : key ∈ Decode.propertyKeys ++ derivedPropertyKeys := by
  unfold Property.contextFields at h
  cases hd : p.description <;>
    simp only [hd, Object.keys, List.map_append, List.map_cons, List.map_nil, List.mem_append,
      List.mem_cons, List.not_mem_nil, Decode.propertyKeys, derivedPropertyKeys] at h ⊢ <;>
    tauto

theorem propertyShown {o : Object} {p : Property} (shape : PropertyShape o)
    (h : Decode.PropertyFrom o p) : PropertyShown o (overlay p.extra p.contextFields) := by
  obtain ⟨s, hs, hparse⟩ := h.dataType
  constructor
  · refine kept_overlay p.contextFields_distinct h.extra fun key hderived v hv => ?_
    by_cases hmodeled : key ∈ Decode.propertyKeys
    · left
      simp only [Decode.propertyKeys, List.mem_cons, List.not_mem_nil, or_false] at hmodeled
      rcases hmodeled with rfl | rfl | rfl
      · rw [← hv, h.name]
        rfl
      · rw [← hv, hs, (TypeExpr.of_parse hparse).1]
        rfl
      · obtain ⟨d, rfl⟩ := shape.description v hv
        rw [Property.contextFields, (h.description d).mpr hv]
        rfl
    · right
      refine ⟨fun hfield => ?_, hmodeled⟩
      rcases List.mem_append.mp (Property.mem_keys_contextFields hfield) with hm | hm
      · exact hmodeled hm
      · exact hderived hm
  · refine ⟨s, p.dataType, hs, hparse, ?_, ?_, ?_⟩ <;>
      rw [get?_overlay _ p.contextFields_distinct] <;> rfl

inductive LiteralText : Value → String → Prop
  | string (s : String) : LiteralText (.string s) s
  | number (n : Json.Number) : LiteralText (.number n) n.text
  | true : LiteralText (.bool true) "true"
  | false : LiteralText (.bool false) "false"

structure EnumValueShown (o shown : Object) : Prop where
  kept : Kept ["value"] o shown
  value : ∃ v s, Object.get? o "value" = some v ∧ LiteralText v s ∧
    Object.get? shown "value" = some (.string s)

theorem literalText_of_literal {v : Value} {s : String} (h : Decode.literal v = .ok s) :
    LiteralText v s := by
  cases v with
  | string t =>
    cases h
    exact .string _
  | number n =>
    cases h
    exact .number n
  | bool b =>
    cases b <;> cases h
    · exact .false
    · exact .true
  | null => cases h
  | array items => cases h
  | object o => cases h

theorem EnumValue.contextFields_distinct (x : EnumValue) : Object.Distinct x.contextFields := by
  have keys : ["name", "value"].Nodup := by decide
  exact keys

theorem enumValueShown {o : Object} {x : EnumValue} (h : Decode.EnumValueFrom o x) :
    EnumValueShown o (overlay x.extra x.contextFields) := by
  obtain ⟨v, hv, hliteral⟩ := h.value
  constructor
  · refine kept_overlay x.contextFields_distinct h.extra fun key hvalue w hw => ?_
    by_cases hname : key = "name"
    · subst hname
      rw [← hw, h.name]
      exact .inl rfl
    · have fresh : key ∉ Decode.enumValueKeys := by
        simpa [Decode.enumValueKeys, hname] using hvalue
      exact .inr ⟨fresh, fresh⟩
  · refine ⟨v, x.value, hv, literalText_of_literal hliteral, ?_⟩
    rw [get?_overlay _ x.contextFields_distinct]
    rfl

/-- The members of an entry in its context: one for each, in the order of the document. -/
def MembersShown (Shown : Object → Object → Prop) (key : String) (o shown : Object) : Prop :=
  ∃ items, Object.get? shown key = some (.array items) ∧
    List.Forall₂ (fun v w => ∃ x y, v = .object x ∧ w = .object y ∧ Shown x y)
      (Object.items o key) items

/-- The keys that have a meaning at an entry of a kind, and those that its context derives. -/
def Kind.entryKeys : Kind → List String
  | .cls => ["name", "type", "isClass", "isEnum", "properties"]
  | .enum => ["name", "type", "isClass", "isEnum", "dataType", "rawDataType", "values"]

theorem Kind.classKeys_subset : Decode.classKeys ⊆ Kind.cls.entryKeys := by decide

theorem Kind.enumKeys_subset : Decode.enumKeys ⊆ Kind.enum.entryKeys := by decide

structure EntryShown (kind : Kind) (o shown : Object) : Prop where
  kept : Kept kind.entryKeys o shown
  name : ∃ n, Object.get? o "name" = some (.string n) ∧ Object.get? shown "name" = some (.string n)
  type : Object.get? shown "type" = some ((Object.get? o "type").getD (.string "class"))
  properties : kind = .cls → MembersShown PropertyShown "properties" o shown
  backing : kind = .enum → ∃ s, Object.get? o "dataType" = some (.string s) ∧
    Object.get? shown "dataType" = some (.string s)
  values : kind = .enum → MembersShown EnumValueShown "values" o shown

namespace DataType

theorem get?_context (d : DataType) {key : String} {v : Value}
    (h : Object.get? d.contextFields key = some v) : Object.get? d.context key = some v := by
  rw [context, get?_overlay _ d.contextFields_distinct, h]
  rfl

theorem keys_contextFields (d : DataType) : Object.keys d.contextFields = d.kind.entryKeys := by
  cases d <;> rfl

/-- The extras of an entry are read from what its type leaves, and no modeled key is among them. -/
theorem kept_context {o : Object} (d : DataType) {modeled : List String} (distinct : Object.Distinct o)
    (hextra : d.extra = (Object.eraseSwap o "type").filter fun e => decide (e.1 ∉ modeled))
    (sub : modeled ⊆ d.kind.entryKeys) : Kept d.kind.entryKeys o d.context := by
  have kept : Kept d.kind.entryKeys (Object.eraseSwap o "type") d.context :=
    kept_overlay d.contextFields_distinct hextra fun key fresh _ _ =>
      .inr ⟨d.keys_contextFields ▸ fresh, fun h => fresh (sub h)⟩
  intro key fresh v hv
  have htype : key ≠ "type" := by
    rintro rfl
    cases hkind : d.kind <;> simp [hkind, Kind.entryKeys] at fresh
  exact kept key fresh v ((Object.get?_eraseSwap distinct htype).trans hv)

end DataType

namespace Document

variable {o : Object}

theorem membersShown {α : Type} {Shown : Object → Object → Prop} {read : Value → Decode.Result α}
    {context : α → Value} {key : String} {members : List α} {shown : Object}
    (hshown : Object.get? shown key = some (.array (members.map context)))
    (hread : List.Forall₂ (fun v x => read v = .ok x) (Object.items o key) members)
    (hmember : ∀ v ∈ Object.items o key, ∀ x, read v = .ok x →
      ∃ p q, v = .object p ∧ context x = .object q ∧ Shown p q) :
    MembersShown Shown key o shown :=
  ⟨_, hshown, List.forall₂_map_right_iff.mpr (Outcome.forall₂_of_mem hread hmember)⟩

theorem classShown {c : ClassType} (hkeys : (Value.object o).WellKeyed) (shape : EntryShape o)
    (isClass : ¬ IsEnum (.object o))
    (h : Decode.classType (.object (Object.eraseSwap o "type")) = .ok c) :
    EntryShown .cls o (DataType.context (.cls c)) := by
  have distinct := hkeys.distinct
  obtain ⟨_, ⟨⟩, hfrom⟩ := Decode.classFrom_of_ok h
  have hclass := hfrom (distinct.eraseSwap "type")
  have hname := hclass.name
  have hread := hclass.properties
  rw [Object.get?_eraseSwap distinct (by decide)] at hname
  rw [items_eraseSwap distinct (by decide)] at hread
  have hshape := shape.ofClass fun hs => isClass (isEnum_iff.mpr hs)
  refine ⟨?_, ⟨c.name, hname, DataType.get?_context _ rfl⟩, ?_, fun _ => ?_, nofun, nofun⟩
  · exact DataType.kept_context (.cls c) distinct hclass.extra Kind.classKeys_subset
  · have hkind : Object.get? (DataType.context (.cls c)) "type" = some (.string "class") :=
      DataType.get?_context _ rfl
    rw [hkind]
    cases htype : Object.get? o "type" with
    | none => rfl
    | some v =>
      rcases shape.kind v htype with rfl | rfl
      · rfl
      · exact absurd (isEnum_iff.mpr htype) isClass
  · refine membersShown (DataType.get?_context (.cls c) rfl) hread fun v hv p hp => ?_
    obtain ⟨x, rfl, hx, hproperty⟩ := property_of_mem hkeys hshape hv
    obtain ⟨_, ⟨⟩, hfrom⟩ := Decode.propertyFrom_of_ok hp
    exact ⟨x, _, rfl, rfl, propertyShown hproperty (hfrom hx)⟩

theorem enumShown {e : EnumType} (hkeys : (Value.object o).WellKeyed)
    (isEnum : IsEnum (.object o))
    (h : Decode.enumType (.object (Object.eraseSwap o "type")) = .ok e) :
    EntryShown .enum o (DataType.context (.enum e)) := by
  have distinct := hkeys.distinct
  obtain ⟨_, ⟨⟩, hfrom⟩ := Decode.enumFrom_of_ok h
  have henum := hfrom (distinct.eraseSwap "type")
  have hname := henum.name
  have hread := henum.values
  obtain ⟨s, hs, hparse⟩ := henum.dataType
  rw [Object.get?_eraseSwap distinct (by decide)] at hname hs
  rw [items_eraseSwap distinct (by decide)] at hread
  refine ⟨?_, ⟨e.name, hname, DataType.get?_context _ rfl⟩, ?_, nofun, fun _ => ⟨s, hs, ?_⟩,
    fun _ => ?_⟩
  · exact DataType.kept_context (.enum e) distinct henum.extra Kind.enumKeys_subset
  · rw [isEnum_iff.mp isEnum]
    exact DataType.get?_context (.enum e) rfl
  · have hbacking : Object.get? (DataType.context (.enum e)) "dataType" =
        some (.string e.dataType.text) := DataType.get?_context _ rfl
    rw [hbacking, (TypeExpr.of_parse hparse).1]
  · refine membersShown (DataType.get?_context (.enum e) rfl) hread fun v hv x hx => ?_
    obtain ⟨p, rfl, hfrom⟩ := Decode.enumValueFrom_of_ok hx
    exact ⟨p, _, rfl, rfl, enumValueShown (hfrom (hkeys.of_mem_items hv).distinct)⟩

def statedKind (entry : Value) : Kind := if IsEnum entry then .enum else .cls

/-- What a template sees of the data type of an entry is what the entry says. -/
def ShownBy (entry : Value) (d : DataType) : Prop :=
  ∃ o, entry = .object o ∧ EntryShown (statedKind entry) o d.context

theorem shownBy_of_decodeEntry {file : String} {d : DataType} (hkeys : (Value.object o).WellKeyed)
    (shape : EntryShape o) (h : decodeEntry file (.object o) = .ok d) : ShownBy (.object o) d := by
  refine ⟨o, rfl, ?_⟩
  by_cases safe : SafeName (nameOf o)
  · by_cases isEnum : IsEnum (.object o)
    · rw [decodeEntry_enum safe (by rw [kindOf_eq shape, if_pos isEnum])] at h
      rw [statedKind, if_pos isEnum]
      split at h
      · next e he =>
        split at h
        · cases h
          exact enumShown hkeys isEnum he
        · cases h
      · cases h
    · rw [decodeEntry_class safe (by rw [kindOf_eq shape, if_neg isEnum])] at h
      rw [statedKind, if_neg isEnum]
      split at h
      · next c hc =>
        cases h
        exact classShown hkeys shape isEnum hc
      · cases h
  · have refused : decodeEntry file (.object o) = _ := decodeEntry_unsafe safe
    cases refused.symm.trans h

theorem shownBy_of_entry {file : String} {v : Value} {d : DataType} (hkeys : v.WellKeyed)
    (shape : ObjectOf EntryShape v) (h : entry false file v = .ok d) : ShownBy v d := by
  obtain ⟨o, rfl, shape⟩ := shape
  obtain ⟨x, hx, h⟩ := Outcome.bind_eq_ok.mp h
  split at h
  · cases h
  · cases h
    exact shownBy_of_decodeEntry hkeys shape hx

/-- What the document says is what the template sees: the data types are those of the entries, in their
order, and each shows what its entry says. -/
theorem parse_shows_document {source : Source} {s : Schema} (h : parse false source = .ok s) :
    ∃ v, read source.name source.contents = .ok v ∧
      List.Forall₂ ShownBy (itemsAt "dataTypes" v) s.dataTypes := by
  obtain ⟨v, hread, h⟩ := Outcome.bind_eq_ok.mp h
  refine ⟨v, hread, ?_⟩
  have hkeys := wellKeyed_of_read hread
  obtain ⟨hshape, -⟩ := (ofValue_accepts_iff false source.name hkeys).mp ⟨s, h⟩
  obtain ⟨version, heq⟩ := ofValue_eq_mapM false source.name hshape
  rw [heq] at h
  obtain ⟨dataTypes, hentries, h⟩ := Outcome.bind_eq_ok.mp h
  cases h
  refine Outcome.forall₂_of_mem (Outcome.mapM_eq_ok.mp hentries) fun x hx d hd => ?_
  exact shownBy_of_entry (wellKeyed_of_mem hkeys hx) (entryShape_of_mem hshape hx) hd

/-- An enum over numbers and a class with keys of its own, one of them named like a derived field. -/
def task : Source := ⟨"task.json",
  "\x7b\"dataTypes\": [\x7b\"name\": \"State\", \"type\": \"enum\", \"dataType\": \"int\", " ++
    "\"values\": [\x7b\"name\": \"Open\", \"value\": 1\x7d]\x7d, " ++
    "\x7b\"name\": \"Task\", \"table\": null, \"properties\": [\x7b\"name\": \"id\", " ++
    "\"dataType\": \"[int]?\", \"isOptional\": 7, \"key\": true\x7d]\x7d]\x7d"⟩

def taskSchema : Schema := ⟨"", [
  .enum ⟨"State", ⟨"int", false, false⟩, [⟨"Open", "1", []⟩], []⟩,
  .cls ⟨"Task", [⟨"id", ⟨"int", true, true⟩, none,
    [("isOptional", .number (.int 7)), ("key", .bool true)]⟩], [("table", .null)]⟩]⟩

theorem parse_shows_document_of_task : ∃ v, read task.name task.contents = .ok v ∧
    List.Forall₂ ShownBy (itemsAt "dataTypes" v) taskSchema.dataTypes := by
  have hread : read task.name task.contents = .ok (.object [("dataTypes", .array [
      .object [("name", .string "State"), ("type", .string "enum"), ("dataType", .string "int"),
        ("values", .array [.object [("name", .string "Open"), ("value", .number (.int 1))]])],
      .object [("name", .string "Task"), ("table", .null), ("properties", .array [
        .object [("name", .string "id"), ("dataType", .string "[int]?"),
          ("isOptional", .number (.int 7)), ("key", .bool true)]])]])]) := by
    cbv
  have hparse : parse false task = .ok taskSchema := by
    rw [parse_eq_ofValue hread]
    rfl
  exact parse_shows_document hparse

end Document

end SchemaForge
