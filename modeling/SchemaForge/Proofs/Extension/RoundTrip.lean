import SchemaForge.Extension.Marshal
import SchemaForge.Proofs.Json.Nulls
import SchemaForge.Proofs.Outcome
import SchemaForge.Proofs.Script.Tables

/-! Values that go to scripts and come back. What a value is made of stands in tables behind those that
were there before, each table behind the ones inside it; read back, it is the value without its nulls. -/

namespace SchemaForge

open Extension

structure Script.Heap.Extends (h later : Script.Heap) : Prop where
  size : h.tables.size ≤ later.tables.size
  table : ∀ place < h.tables.size, later.table place = h.table place

namespace Script.Heap.Extends

variable {h later last : Heap}

theorem refl (h : Heap) : h.Extends h := ⟨Nat.le_refl _, fun _ _ => rfl⟩

theorem trans (first : h.Extends later) (second : later.Extends last) : h.Extends last where
  size := Nat.le_trans first.size second.size
  table place inside := by
    have inside' : place < later.tables.size := Nat.lt_of_lt_of_le inside first.size
    rw [second.table place inside', first.table place inside]

theorem newTable (h : Heap) (t : Table) : h.Extends (h.newTable t).1 where
  size := by simp [Heap.newTable]
  table place inside := by
    have other : place ≠ h.tables.size := by omega
    simp [Heap.table, Heap.newTable, Array.getElem?_push, other]

theorem newTable_table {t : Table} (grown : (h.newTable t).1.Extends later) :
    later.table h.tables.size = t := by
  rw [grown.table _ (by simp [Heap.newTable])]
  simp [Heap.table, Heap.newTable]

end Script.Heap.Extends

namespace Extension

open Json (Object)
open Script (Heap Table)
open Text (Utf8.decode_ofString)

section Reading

variable {h : Heap} {depth : Nat} {around : List Nat}

theorem not_mem_around {place : Nat} {v : Json.Value}
    (reads : valueToJson h depth around (.table place) = .ok v) : around.contains place = false := by
  unfold valueToJson at reads
  split at reads
  · cases reads
  · next outside => simpa using outside

theorem entriesToJson_text {name : String} {value : Script.Value} {v : Json.Value}
    {rest : List (Script.Value × Script.Value)} {o : Object} (first : Bool)
    (reads : valueToJson h depth around value = .ok v)
    (others : entriesToJson h around (valueToJson h depth around) false rest = .ok o) :
    entriesToJson h around (valueToJson h depth around) first ((.text name, value) :: rest) =
      .ok ((name, v) :: o) := by
  have outside : ∀ place, value = .table place → around.contains place = false := by
    rintro place rfl
    exact not_mem_around reads
  unfold entriesToJson
  cases value with
  | table place =>
    simp only [outside place rfl]
    simp [Script.Value.text, keyText, Utf8.decode_ofString, reads, others, bind, Except.bind]
  | _ => simp [Script.Value.text, keyText, Utf8.decode_ofString, reads, others, bind, Except.bind]

end Reading

/-- The tables of a heap behind those of an earlier one can be read: they are still there, none of the
tables around them is among them, and the nesting may go as deep as they are many. -/
structure Readable (h later last : Heap) (depth : Nat) (around : List Nat) : Prop where
  kept : later.Extends last
  outside : ∀ place ∈ around, later.tables.size ≤ place
  deep : later.tables.size - h.tables.size ≤ depth

namespace Readable

variable {h middle later last : Heap} {depth : Nat} {around : List Nat}

theorem front (r : Readable h later last depth around) (first : h.Extends middle)
    (second : middle.Extends later) : Readable h middle last depth around := by
  have size := first.size
  have size' := second.size
  have deep := r.deep
  exact ⟨second.trans r.kept, fun place hplace => Nat.le_trans size' (r.outside place hplace),
    by omega⟩

theorem back (r : Readable h later last depth around) (first : h.Extends middle) :
    Readable middle later last depth around := by
  have size := first.size
  have deep := r.deep
  exact ⟨r.kept, r.outside, by omega⟩

theorem inside {t : Table} (r : Readable h (middle.newTable t).1 last depth around)
    (first : h.Extends middle) : around.contains middle.tables.size = false ∧
      ∃ d, depth = d + 1 ∧ Readable h middle last d (middle.tables.size :: around) := by
  have size := first.size
  have outside := r.outside
  have deep := r.deep
  simp only [Heap.newTable, Array.size_push] at outside deep
  constructor
  · simp only [List.contains_eq_mem, decide_eq_false_iff_not]
    intro again
    have := outside _ again
    omega
  · refine ⟨depth - 1, by omega, (Script.Heap.Extends.newTable middle t).trans r.kept, ?_, by omega⟩
    simp only [List.forall_mem_cons]
    exact ⟨Nat.le_refl _, fun place hplace => Nat.le_of_lt (outside place hplace)⟩

end Readable

structure ReadsAs (h later : Heap) (value : Script.Value) (v : Json.Value) : Prop where
  grows : h.Extends later
  nil : value = .nil ↔ v = .null
  reads : ∀ last depth around, Readable h later last depth around →
    valueToJson last depth around value = .ok v.withoutNulls

def AllRead (items : List Json.Value) : Prop :=
  ∀ v ∈ items, ∀ h, ReadsAs h (toScript h v).1 (toScript h v).2 v

theorem allRead_cons {v : Json.Value} {items : List Json.Value} : AllRead (v :: items) ↔
    (∀ h, ReadsAs h (toScript h v).1 (toScript h v).2 v) ∧ AllRead items := List.forall_mem_cons

section Lists

variable {items : List Json.Value} {o : Object} {h last : Heap} {depth : Nat} {around : List Nat}

theorem listToScript_grows (each : AllRead items) (h : Heap) :
    h.Extends (listToScript h items).1 := by
  induction items generalizing h with
  | nil => exact .refl h
  | cons v items ih =>
    have parts := allRead_cons.mp each
    exact (parts.1 h).grows.trans (ih parts.2 _)

theorem listToScript_reads (each : AllRead items)
    (readable : Readable h (listToScript h items).1 last depth around) :
    ((listToScript h items).2.takeWhile fun value => !value.isNil).mapM
      (valueToJson last depth around) = .ok (Json.Value.cutAtNull items) := by
  induction items generalizing h with
  | nil => rfl
  | cons v items ih =>
    have parts := allRead_cons.mp each
    have head := parts.1 h
    have tail := listToScript_grows parts.2 (toScript h v).1
    simp only [listToScript] at readable ⊢
    by_cases absent : v = .null
    · have value : (toScript h v).2 = .nil := head.nil.mpr absent
      simp [absent, Script.Value.isNil, Json.Value.cutAtNull]
      rfl
    · have value : (toScript h v).2.isNil = false := by
        rw [Script.Value.isNil_eq_false]
        exact fun nil => absent (head.nil.mp nil)
      have first := head.reads last depth around (readable.front head.grows tail)
      have rest := ih parts.2 (readable.back head.grows)
      simp [value, List.mapM_cons, first, rest, Json.Value.cutAtNull_cons absent, bind, Except.bind,
        pure, Except.pure]

theorem fieldsToScript_names (h : Heap) (o : Object) :
    (fieldsToScript h o).2.map (·.1) = Object.keys o := by
  induction o generalizing h with
  | nil => rfl
  | cons e o ih => simp [fieldsToScript, Object.keys, ih]

theorem fieldsToScript_grows (each : AllRead (o.map (·.2))) (h : Heap) :
    h.Extends (fieldsToScript h o).1 := by
  induction o generalizing h with
  | nil => exact .refl h
  | cons e o ih =>
    have parts := allRead_cons.mp each
    exact (parts.1 h).grows.trans (ih parts.2 _)

theorem fieldsToScript_reads (each : AllRead (o.map (·.2))) (first : Bool)
    (readable : Readable h (fieldsToScript h o).1 last depth around) :
    entriesToJson last around (valueToJson last depth around) first
      (Table.textEntries (fieldsToScript h o).2) = .ok (Json.Value.withoutNullFields o) := by
  induction o generalizing h first with
  | nil => rfl
  | cons e o ih =>
    obtain ⟨name, v⟩ := e
    have parts := allRead_cons.mp each
    have head := parts.1 h
    have tail := fieldsToScript_grows parts.2 (toScript h v).1
    simp only [fieldsToScript] at readable ⊢
    by_cases absent : v = .null
    · have value : (toScript h v).2 = .nil := head.nil.mpr absent
      have rest := ih parts.2 first (readable.back head.grows)
      rw [value, Table.textEntries_cons_nil, rest, absent, Json.Value.withoutNullFields]
    · have value : (toScript h v).2 ≠ .nil := fun nil => absent (head.nil.mp nil)
      have here := head.reads last depth around (readable.front head.grows tail)
      have rest := ih parts.2 false (readable.back head.grows)
      rw [Table.textEntries_cons value, Json.Value.withoutNullFields_cons absent]
      exact entriesToJson_text first here rest

end Lists

theorem fieldTable_eq {fields : List (String × Script.Value)} (distinct : (fields.map (·.1)).Nodup) :
    fieldTable fields =
      ⟨#[], Table.textEntries fields, Table.roomFor fields.length, .none⟩ := by
  have room := Table.le_roomFor fields.length
  rw [fieldTable, Table.foldl_set distinct]
  · simp [Table.sized]
  · simp [Table.sized, Table.held?]
  · simpa [Table.sized] using room

theorem isList_textEntries (fields : List (String × Script.Value)) (room : Nat) :
    isList ⟨#[], Table.textEntries fields, room, .none⟩ = false := by
  simp [isList, Table.border_textEntries]

namespace ReadsAs

variable {h inner : Heap} {v : Json.Value}

theorem of_scalar {value : Script.Value} (nil : value = .nil ↔ v = .null)
    (reads : ∀ last depth around, valueToJson last depth around value = .ok v.withoutNulls) :
    ReadsAs h h value v :=
  ⟨.refl h, nil, fun last depth around _ => reads last depth around⟩

theorem of_table {t : Table} (present : v ≠ .null) (grows : h.Extends inner)
    (reads : ∀ last depth around, Readable h inner last depth around →
      (if isList t then (t.sequence.mapM (valueToJson last depth around)).map .array
        else (entriesToJson last around (valueToJson last depth around) true t.pairs).map .object) =
        .ok v.withoutNulls) :
    ReadsAs h (inner.newTable t).1 (.table inner.tables.size) v where
  grows := grows.trans (.newTable inner t)
  nil := by simp [present]
  reads last depth around readable := by
    obtain ⟨outside, d, rfl, inside⟩ := readable.inside grows
    have table := Script.Heap.Extends.newTable_table readable.kept
    rw [valueToJson]
    simp only [outside, table]
    exact reads last d _ inside

end ReadsAs

theorem toScript_reads {v : Json.Value} (portable : v.Portable) (h : Heap) :
    ReadsAs h (toScript h v).1 (toScript h v).2 v := by
  induction portable generalizing h with
  | null | bool =>
    rw [toScript]
    exact .of_scalar (by simp) fun _ _ _ => by simp [valueToJson, Json.Value.withoutNulls]
  | @int i signed =>
    have whole : (Int64.ofInt i).toInt = i := by
      have bounds := signed
      simp only [Word.isSigned, Bool.and_eq_true, decide_eq_true_eq] at bounds
      exact Int64.toInt_ofInt_of_le bounds.1 bounds.2
    rw [toScript, numberToScript, if_pos signed]
    exact .of_scalar (by simp) fun _ _ _ => by simp [valueToJson, whole, Json.Value.withoutNulls]
  | @float x finite =>
    rw [toScript, numberToScript]
    refine .of_scalar (by simp) fun _ _ _ => ?_
    simp [valueToJson, Json.Value.ofFloat, finite, Json.Value.withoutNulls]
  | string s =>
    rw [toScript, Script.Value.text]
    refine .of_scalar (by simp) fun _ _ _ => ?_
    simp [valueToJson, Utf8.decode_ofString, Json.Value.withoutNulls]
  | @array items inner ih =>
    have each : AllRead items := ih
    refine .of_table (by simp) (listToScript_grows each h) fun last depth around readable => ?_
    have reads := listToScript_reads each readable
    have list : isList (listTable (listToScript h items).2) = true := by simp [isList, listTable]
    rw [if_pos list, Table.sequence_of_items _ rfl, listTable, reads]
    rfl
  | @object o distinct inner ih =>
    have each : AllRead (o.map (·.2)) := by
      simp only [AllRead, List.forall_mem_map]
      exact ih
    have names : ((fieldsToScript h o).2.map (·.1)).Nodup := by
      rw [fieldsToScript_names]
      exact distinct
    refine .of_table (by simp) (fieldsToScript_grows each h) fun last depth around readable => ?_
    have reads := fieldsToScript_reads each true readable
    rw [fieldTable_eq names, isList_textEntries, Table.pairs_textEntries, reads]
    rfl

theorem tableToJson_toScript {v : Json.Value} (portable : v.Portable) (h : Heap) {place : Nat}
    (table : (toScript h v).2 = .table place) :
    tableToJson (toScript h v).1 place = .ok v.withoutNulls := by
  have reads := (toScript_reads portable h).reads (toScript h v).1
    ((toScript h v).1.tables.size + 1) [] ⟨.refl _, nofun, by omega⟩
  rw [table] at reads
  simp [tableToJson, reads]

/-- An array or object that goes to a script and comes back is the same but for nulls: fields that are
null are left out, and arrays are cut at their first null. -/
theorem convert_toScript {v : Json.Value} (portable : v.Portable) (h : Heap) :
    (∀ items, v = .array items →
      ResultKind.array.convert (toScript h v).1 (toScript h v).2 = .ok v.withoutNulls) ∧
    (∀ o, v = .object o →
      ResultKind.object.convert (toScript h v).1 (toScript h v).2 = .ok v.withoutNulls) ∧
    (v.NullFree → v.withoutNulls = v) := by
  refine ⟨?_, ?_, fun nullFree => nullFree.withoutNulls_eq⟩
  · rintro items rfl
    obtain ⟨place, table⟩ : ∃ place, (toScript h (.array items)).2 = .table place := by
      simp [toScript]
    rw [table, ResultKind.convert, tableToJson_toScript portable h table, Json.Value.withoutNulls]
    rfl
  · rintro o rfl
    obtain ⟨place, table⟩ : ∃ place, (toScript h (.object o)).2 = .table place := by
      simp [toScript]
    rw [table, ResultKind.convert, tableToJson_toScript portable h table, Json.Value.withoutNulls]
    rfl

/-- Arrays and objects with nulls in them, with nothing in them, and inside each other. -/
def nested : Json.Value :=
  .object [("a", .array [.number (.int 1), .null, .bool true]), ("b", .null), ("c", .object []),
    ("d", .array [.array [], .string "e"])]

theorem nested_portable : nested.Portable := by
  have one : (Json.Value.number (.int 1)).Portable := .int (by decide)
  have numbers : (Json.Value.array [.number (.int 1), .null, .bool true]).Portable :=
    .array (by simp [one, Json.Value.Portable.null, Json.Value.Portable.bool])
  have none : (Json.Value.object []).Portable := .object List.nodup_nil nofun
  have list : (Json.Value.array [.array [], .string "e"]).Portable :=
    .array (by simp [Json.Value.Portable.array, Json.Value.Portable.string])
  refine .object (by simp [Object.Distinct, Object.keys]) ?_
  simp [numbers, none, list, Json.Value.Portable.null]

theorem convert_nested : nested.Portable ∧
    ResultKind.object.convert (toScript .empty nested).1 (toScript .empty nested).2 =
      .ok (.object [("a", .array [.number (.int 1)]), ("c", .object []),
        ("d", .array [.array [], .string "e"])]) :=
  ⟨nested_portable, (convert_toScript nested_portable .empty).2.1 _ rfl⟩

end Extension

end SchemaForge
