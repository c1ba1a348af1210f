import SchemaForge.Schema.Structure
import SchemaForge.Proofs.Json.Keys

/-! The shape of schema documents. The rules find nothing wrong with a value just when it has the
shape that is written out here, at whatever place it stands. -/

namespace SchemaForge.Structure

open Json (Object Value)

theorem get?_object (o : Object) (key : String) : (Value.object o).get? key = Object.get? o key := rfl

theorem all_nil {path : Path} {v : Value} : all [] path v = [] := rfl

theorem all_cons_eq_nil {rule : Rule} {rules : List Rule} {path : Path} {v : Value} :
    all (rule :: rules) path v = [] ↔ rule path v = [] ∧ all rules path v = [] := by
  simp [all]

theorem ofType_eq_nil {allowed : List JsonType} {path : Path} {v : Value} :
    ofType allowed path v = [] ↔ allowed.any (·.holds v) = true := by
  unfold ofType
  split
  · next h => simp [h]
  · next h => simp [h]

theorem ofType_object {path : Path} {v : Value} :
    ofType [.object] path v = [] ↔ ∃ o, v = .object o := by
  rw [ofType_eq_nil]
  cases v <;> simp [JsonType.holds]

theorem ofType_array {path : Path} {v : Value} :
    ofType [.array] path v = [] ↔ ∃ items, v = .array items := by
  rw [ofType_eq_nil]
  cases v <;> simp [JsonType.holds]

theorem ofType_string {path : Path} {v : Value} :
    ofType [.string] path v = [] ↔ ∃ s, v = .string s := by
  rw [ofType_eq_nil]
  cases v <;> simp [JsonType.holds]

theorem requires_nil {path : Path} {o : Object} : requires [] path (.object o) = [] := rfl

theorem requires_cons_eq_nil {key : String} {keys : List String} {path : Path} {o : Object} :
    requires (key :: keys) path (.object o) = [] ↔
      (∃ v, Object.get? o key = some v) ∧ requires keys path (.object o) = [] := by
  simp [requires, List.filter_eq_nil_iff, Object.contains_iff_get?]

theorem under_eq_nil {key : String} {rule : Rule} {path : Path} {o : Object} :
    under key rule path (.object o) = [] ↔
      ∀ part, Object.get? o key = some part → rule (path ++ [.key key]) part = [] := by
  rw [under, get?_object]
  cases Object.get? o key <;> simp

theorem each_eq_nil {rule : Rule} {path : Path} {items : List Value} {Shape : Value → Prop}
    (hrule : ∀ path v, rule path v = [] ↔ Shape v) :
    each rule path (.array items) = [] ↔ ∀ v ∈ items, Shape v := by
  simp only [each, List.flatten_eq_nil_iff, List.mem_mapIdx]
  constructor
  · intro h v hv
    obtain ⟨i, hi, rfl⟩ := List.mem_iff_getElem.mp hv
    exact (hrule _ _).mp (h _ ⟨i, hi, rfl⟩)
  · rintro h _ ⟨i, hi, rfl⟩
    exact (hrule _ _).mpr (h _ (List.getElem_mem hi))

theorem nonEmptyText_eq_nil {path : Path} {s : String} :
    nonEmptyText path (.string s) = [] ↔ s ≠ "" := by
  unfold nonEmptyText
  split
  · next h => simp [Value.string.inj h]
  · next h => simpa using fun hs => h (congrArg Value.string hs)

theorem nameRule_eq_nil {path : Path} {v : Value} :
    nameRule path v = [] ↔ ∃ s, v = .string s ∧ s ≠ "" := by
  simp only [nameRule, all_cons_eq_nil, all_nil, and_true, ofType_string]
  constructor
  · rintro ⟨⟨s, rfl⟩, h⟩
    exact ⟨s, rfl, nonEmptyText_eq_nil.mp h⟩
  · rintro ⟨s, rfl, hs⟩
    exact ⟨⟨s, rfl⟩, nonEmptyText_eq_nil.mpr hs⟩

theorem oneOf_eq_nil {allowed : List String} {path : Path} {v : Value} :
    oneOf allowed path v = [] ↔ ∃ s ∈ allowed, v = .string s := by
  unfold oneOf
  split
  · next s => simp
  · next h =>
    refine ⟨nofun, ?_⟩
    rintro ⟨s, -, rfl⟩
    exact absurd rfl (h s)

/-- A value that is an object of a shape. -/
def ObjectOf (Shape : Object → Prop) (v : Value) : Prop := ∃ o, v = .object o ∧ Shape o

def ListOf (Shape : Value → Prop) (v : Value) : Prop := ∃ items, v = .array items ∧ ∀ x ∈ items, Shape x

def Named (o : Object) : Prop := ∃ n, Object.get? o "name" = some (.string n) ∧ n ≠ ""

def Literal (v : Value) : Prop := (∃ b, v = .bool b) ∨ (∃ n, v = .number n) ∨ ∃ s, v = .string s

structure PropertyShape (o : Object) : Prop where
  name : Named o
  dataType : ∃ s, Object.get? o "dataType" = some (.string s)
  description : ∀ v, Object.get? o "description" = some v → ∃ s, v = .string s

structure EnumValueShape (o : Object) : Prop where
  name : Named o
  value : ∃ v, Object.get? o "value" = some v ∧ Literal v

structure ClassShape (o : Object) : Prop where
  properties : ∀ v, Object.get? o "properties" = some v → ListOf (ObjectOf PropertyShape) v

structure EnumShape (o : Object) : Prop where
  dataType : ∃ s, Object.get? o "dataType" = some (.string s)
  values : ∃ v, Object.get? o "values" = some v ∧ ListOf (ObjectOf EnumValueShape) v

def SaysEnum (o : Object) : Prop := Object.get? o "type" = some (.string "enum")

structure EntryShape (o : Object) : Prop where
  name : Named o
  kind : ∀ v, Object.get? o "type" = some v → v = .string "class" ∨ v = .string "enum"
  ofEnum : SaysEnum o → EnumShape o
  ofClass : ¬ SaysEnum o → ClassShape o

structure DocumentShape (o : Object) : Prop where
  version : ∀ v, Object.get? o "version" = some v → (∃ n, v = .number n) ∨ ∃ s, v = .string s
  dataTypes : ∃ v, Object.get? o "dataTypes" = some v ∧ ListOf (ObjectOf EntryShape) v

theorem list_eq_nil {rule : Rule} {path : Path} {v : Value} {Shape : Value → Prop}
    (hrule : ∀ path v, rule path v = [] ↔ Shape v) :
    ofType [.array] path v = [] ∧ each rule path v = [] ↔ ListOf Shape v := by
  rw [ofType_array]
  constructor
  · rintro ⟨⟨items, rfl⟩, h⟩
    exact ⟨items, rfl, (each_eq_nil hrule).mp h⟩
  · rintro ⟨items, rfl, h⟩
    exact ⟨⟨items, rfl⟩, (each_eq_nil hrule).mpr h⟩

theorem objectRule_eq_nil {rules : List Rule} {path : Path} {v : Value} {Shape : Object → Prop}
    (hrules : ∀ o, all rules path (.object o) = [] ↔ Shape o) :
    all (ofType [.object] :: rules) path v = [] ↔ ObjectOf Shape v := by
  rw [all_cons_eq_nil, ofType_object]
  constructor
  · rintro ⟨⟨o, rfl⟩, h⟩
    exact ⟨o, rfl, (hrules o).mp h⟩
  · rintro ⟨o, rfl, h⟩
    exact ⟨⟨o, rfl⟩, (hrules o).mpr h⟩

theorem present_iff {o : Object} {key : String} {P : Value → Prop} :
    (∃ v, Object.get? o key = some v ∧ P v) ↔
      (∃ v, Object.get? o key = some v) ∧ ∀ v, Object.get? o key = some v → P v := by
  cases Object.get? o key <;> simp

theorem named_iff {o : Object} :
    Named o ↔ (∃ v, Object.get? o "name" = some v) ∧
      ∀ v, Object.get? o "name" = some v → ∃ s, v = .string s ∧ s ≠ "" := by
  rw [← present_iff]
  constructor
  · rintro ⟨n, hn, hne⟩
    exact ⟨_, hn, n, rfl, hne⟩
  · rintro ⟨_, hn, n, rfl, hne⟩
    exact ⟨n, hn, hne⟩

theorem text_iff {o : Object} {key : String} :
    (∃ s, Object.get? o key = some (.string s)) ↔ (∃ v, Object.get? o key = some v) ∧
      ∀ v, Object.get? o key = some v → ∃ s, v = .string s := by
  rw [← present_iff]
  constructor
  · rintro ⟨s, hs⟩
    exact ⟨_, hs, s, rfl⟩
  · rintro ⟨_, hs, s, rfl⟩
    exact ⟨s, hs⟩

theorem property_eq_nil (path : Path) (v : Value) :
    property path v = [] ↔ ObjectOf PropertyShape v := by
  refine objectRule_eq_nil fun o => ?_
  simp only [all_cons_eq_nil, all_nil, and_true, requires_cons_eq_nil,
    requires_nil, under_eq_nil, nameRule_eq_nil, ofType_string]
  constructor
  · rintro ⟨⟨hn, ht⟩, hname, htype, hdescription⟩
    exact ⟨named_iff.mpr ⟨hn, hname⟩, text_iff.mpr ⟨ht, htype⟩, hdescription⟩
  · rintro ⟨hname, htype, hdescription⟩
    obtain ⟨hn, hname⟩ := named_iff.mp hname
    obtain ⟨ht, htype⟩ := text_iff.mp htype
    exact ⟨⟨hn, ht⟩, hname, htype, hdescription⟩

theorem literal_iff {path : Path} {v : Value} :
    ofType [.boolean, .number, .string] path v = [] ↔ Literal v := by
  rw [ofType_eq_nil]
  cases v <;> simp [JsonType.holds, Literal]

theorem enumValue_eq_nil (path : Path) (v : Value) :
    enumValue path v = [] ↔ ObjectOf EnumValueShape v := by
  refine objectRule_eq_nil fun o => ?_
  simp only [all_cons_eq_nil, all_nil, and_true, requires_cons_eq_nil,
    requires_nil, under_eq_nil, nameRule_eq_nil, literal_iff]
  constructor
  · rintro ⟨⟨hn, hv⟩, hname, hvalue⟩
    exact ⟨named_iff.mpr ⟨hn, hname⟩, present_iff.mpr ⟨hv, hvalue⟩⟩
  · rintro ⟨hname, hvalue⟩
    obtain ⟨hn, hname⟩ := named_iff.mp hname
    obtain ⟨hv, hvalue⟩ := present_iff.mp hvalue
    exact ⟨⟨hn, hv⟩, hname, hvalue⟩

theorem classShape_eq_nil (path : Path) (o : Object) :
    classShape path (.object o) = [] ↔ ClassShape o := by
  simp only [classShape, under_eq_nil, all_cons_eq_nil, all_nil, and_true,
    list_eq_nil property_eq_nil]
  exact ⟨fun h => ⟨h⟩, fun h => h.properties⟩

theorem enumShape_eq_nil (path : Path) (o : Object) :
    enumShape path (.object o) = [] ↔ EnumShape o := by
  simp only [enumShape, all_cons_eq_nil, all_nil, and_true, requires_cons_eq_nil, requires_nil,
    under_eq_nil, ofType_string, list_eq_nil enumValue_eq_nil]
  constructor
  · rintro ⟨⟨ht, hv⟩, htype, hvalues⟩
    exact ⟨text_iff.mpr ⟨ht, htype⟩, present_iff.mpr ⟨hv, hvalues⟩⟩
  · rintro ⟨htype, hvalues⟩
    obtain ⟨ht, htype⟩ := text_iff.mp htype
    obtain ⟨hv, hvalues⟩ := present_iff.mp hvalues
    exact ⟨⟨ht, hv⟩, htype, hvalues⟩

theorem saysEnum_iff {o : Object} : saysEnum (.object o) = true ↔ SaysEnum o := by
  rw [saysEnum, SaysEnum, get?_object]
  split
  · next s h => simp [h]
  · next h => simpa using fun hs => h "enum" hs

theorem entry_eq_nil (path : Path) (v : Value) : entry path v = [] ↔ ObjectOf EntryShape v := by
  refine objectRule_eq_nil fun o => ?_
  simp only [all_cons_eq_nil, all_nil, and_true, requires_cons_eq_nil,
    requires_nil, under_eq_nil, nameRule_eq_nil, oneOf_eq_nil, List.exists_mem_cons_iff,
    List.not_mem_nil, false_and, exists_false, or_false]
  by_cases henum : SaysEnum o
  · simp only [saysEnum_iff.mpr henum, if_true, enumShape_eq_nil]
    constructor
    · rintro ⟨hn, hname, hkind, hshape⟩
      exact ⟨named_iff.mpr ⟨hn, hname⟩, hkind, fun _ => hshape, fun h => absurd henum h⟩
    · rintro ⟨hname, hkind, hshape, -⟩
      obtain ⟨hn, hname⟩ := named_iff.mp hname
      exact ⟨hn, hname, hkind, hshape henum⟩
  · simp only [Bool.eq_false_iff.mpr fun h => henum (saysEnum_iff.mp h), Bool.false_eq_true,
      if_false, classShape_eq_nil]
    constructor
    · rintro ⟨hn, hname, hkind, hshape⟩
      exact ⟨named_iff.mpr ⟨hn, hname⟩, hkind, fun h => absurd h henum, fun _ => hshape⟩
    · rintro ⟨hname, hkind, -, hshape⟩
      obtain ⟨hn, hname⟩ := named_iff.mp hname
      exact ⟨hn, hname, hkind, hshape henum⟩

theorem document_eq_nil (path : Path) (v : Value) :
    document path v = [] ↔ ObjectOf DocumentShape v := by
  refine objectRule_eq_nil fun o => ?_
  simp only [all_cons_eq_nil, all_nil, and_true, requires_cons_eq_nil,
    requires_nil, under_eq_nil, list_eq_nil entry_eq_nil]
  have version_iff {v : Value} {path : Path} : ofType [.number, .string] path v = [] ↔
      (∃ n, v = .number n) ∨ ∃ s, v = .string s := by
    rw [ofType_eq_nil]
    cases v <;> simp [JsonType.holds]
  simp only [version_iff]
  constructor
  · rintro ⟨hd, hversion, hentries⟩
    exact ⟨hversion, present_iff.mpr ⟨hd, hentries⟩⟩
  · rintro ⟨hversion, hentries⟩
    obtain ⟨hd, hentries⟩ := present_iff.mp hentries
    exact ⟨hd, hversion, hentries⟩

theorem violations_eq_nil {v : Value} : violations v = [] ↔ ObjectOf DocumentShape v :=
  document_eq_nil [] v

end SchemaForge.Structure
