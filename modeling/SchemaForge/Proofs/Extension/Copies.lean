import SchemaForge.Proofs.Extension.RoundTrip
import SchemaForge.Proofs.Json.Keys

/-! Values on their way to scripts, whatever they hold. A script gets a copy: tables that were not there
before, which hold key by key and item by item what the value holds, and no table that was there is
touched. -/

namespace SchemaForge.Extension

open Json (Object)
open Script (Heap Table lastUnder lastUnder_eq_none)

theorem fieldTable_keyed (fields : List (String × Script.Value)) : (fieldTable fields).Keyed ∧
    ∀ key, (fieldTable fields).get (.text key) = (lastUnder fields key).getD .nil := by
  have room := Table.le_roomFor fields.length
  have empty : (Table.sized 0 fields.length).Keyed := ⟨rfl, rfl, fun _ held => by cases held⟩
  refine Table.foldl_set_keyed empty ?_
  simpa [Table.sized] using room

/-- A value as it stands in the tables of a heap from a place on: nothing for null, a list with its items
in their positions for an array, and for an object a table of text keys that holds for each key what the
object has for it. -/
inductive Mirrors (h : Heap) (low : Nat) : Json.Value → Script.Value → Prop
  | null : Mirrors h low .null .nil
  | bool (b : Bool) : Mirrors h low (.bool b) (.bool b)
  | number (n : Json.Number) : Mirrors h low (.number n) (.number (numberToScript n))
  | string (s : String) : Mirrors h low (.string s) (.text s)
  | array {items : List Json.Value} {place : Nat} (own : low ≤ place ∧ place < h.tables.size)
      (list : (h.table place).metatable = .listMark) (only : (h.table place).entries = [])
      (each : ∀ i : Nat, Mirrors h low (items[i]?.getD .null) ((h.table place).getInt (i + 1))) :
      Mirrors h low (.array items) (.table place)
  | object {o : Object} {place : Nat} (own : low ≤ place ∧ place < h.tables.size)
      (plain : (h.table place).metatable = .none)
      (texts : ∀ e ∈ (h.table place).pairs, ∃ key, e.1 = .text key)
      (each : ∀ key, Mirrors h low ((lastUnder o key).getD .null) ((h.table place).get (.text key))) :
      Mirrors h low (.object o) (.table place)

variable {h later : Heap} {low low' : Nat} {v : Json.Value} {x : Script.Value}

theorem Mirrors.grow (mirrors : Mirrors h low v x) (grown : h.Extends later) (less : low' ≤ low) :
    Mirrors later low' v x := by
  have size := grown.size
  induction mirrors with
  | null => exact .null
  | bool b => exact .bool b
  | number n => exact .number n
  | string s => exact .string s
  | array own list only each ih =>
    have same := grown.table _ own.2
    rw [← same] at list only ih
    exact .array ⟨by omega, by omega⟩ list only ih
  | object own plain texts each ih =>
    have same := grown.table _ own.2
    rw [← same] at plain texts ih
    exact .object ⟨by omega, by omega⟩ plain texts ih

structure Copied (h : Heap) (v : Json.Value) : Prop where
  grows : h.Extends (toScript h v).1
  mirrors : Mirrors (toScript h v).1 h.tables.size v (toScript h v).2

structure ItemsCopied (h : Heap) (items : List Json.Value) : Prop where
  grows : h.Extends (listToScript h items).1
  mirrors : ∀ i : Nat, Mirrors (listToScript h items).1 h.tables.size (items[i]?.getD .null)
    ((listToScript h items).2[i]?.getD .nil)

structure FieldsCopied (h : Heap) (o : Object) : Prop where
  grows : h.Extends (fieldsToScript h o).1
  mirrors : ∀ key, Mirrors (fieldsToScript h o).1 h.tables.size ((lastUnder o key).getD .null)
    ((lastUnder (fieldsToScript h o).2 key).getD .nil)

theorem getInt_listTable (values : List Script.Value) (i : Nat) :
    (listTable values).getInt (i + 1) = values[i]?.getD .nil := by
  by_cases inside : i < values.length
  · rw [Table.getInt_of_lt _ _ (by simpa [listTable] using inside)]
    simp [listTable, inside]
  · rw [Table.getInt_of_ge _ _ (by simpa [listTable] using inside) rfl]
    simp [inside]

theorem ItemsCopied.array {items : List Json.Value} (copied : ItemsCopied h items) :
    Copied h (.array items) := by
  have size := copied.grows.size
  have grown := Script.Heap.Extends.newTable (listToScript h items).1 (listTable (listToScript h items).2)
  have table := Script.Heap.Extends.newTable_table (.refl
    ((listToScript h items).1.newTable (listTable (listToScript h items).2)).1)
  refine ⟨copied.grows.trans grown, .array ⟨size, by simp [toScript, Heap.newTable]⟩ ?_ ?_ fun i => ?_⟩
  all_goals simp only [toScript, Heap.newTable] at table ⊢; rw [table]
  · rfl
  · rfl
  · rw [getInt_listTable]
    exact (copied.mirrors i).grow grown (Nat.le_refl _)

theorem FieldsCopied.object {o : Object} (copied : FieldsCopied h o) : Copied h (.object o) := by
  have size := copied.grows.size
  have grown := Script.Heap.Extends.newTable (fieldsToScript h o).1 (fieldTable (fieldsToScript h o).2)
  have table := Script.Heap.Extends.newTable_table (.refl
    ((fieldsToScript h o).1.newTable (fieldTable (fieldsToScript h o).2)).1)
  obtain ⟨keyed, got⟩ := fieldTable_keyed (fieldsToScript h o).2
  refine ⟨copied.grows.trans grown, .object ⟨size, by simp [toScript, Heap.newTable]⟩ ?_ ?_ fun key => ?_⟩
  all_goals simp only [toScript, Heap.newTable] at table ⊢; rw [table]
  · exact keyed.plain
  · exact keyed.pairs
  · rw [got]
    exact (copied.mirrors key).grow grown (Nat.le_refl _)

theorem ItemsCopied.cons {items : List Json.Value} (first : Copied h v)
    (rest : ItemsCopied (toScript h v).1 items) : ItemsCopied h (v :: items) := by
  refine ⟨first.grows.trans rest.grows, fun i => ?_⟩
  cases i with
  | zero => exact first.mirrors.grow rest.grows (Nat.le_refl _)
  | succ i => exact (rest.mirrors i).grow (.refl _) first.grows.size

theorem FieldsCopied.cons {o : Object} (key : String) (first : Copied h v)
    (rest : FieldsCopied (toScript h v).1 o) : FieldsCopied h ((key, v) :: o) := by
  refine ⟨first.grows.trans rest.grows, fun other => ?_⟩
  have behind := (rest.mirrors other).grow (.refl _) first.grows.size
  have here := first.mirrors.grow rest.grows (Nat.le_refl _)
  have names := fieldsToScript_names (toScript h v).1 o
  simp only [fieldsToScript, lastUnder]
  by_cases again : other ∈ Object.keys o
  · obtain ⟨w, hw⟩ := Option.ne_none_iff_exists'.mp (mt lastUnder_eq_none.mp (not_not.mpr again))
    obtain ⟨y, hy⟩ := Option.ne_none_iff_exists'.mp
      (mt lastUnder_eq_none.mp (not_not.mpr (names.symm ▸ again)))
    rw [hw, hy] at behind
    rwa [hw, hy]
  · rw [lastUnder_eq_none.mpr again, lastUnder_eq_none.mpr (names.symm ▸ again), Option.none_or,
      Option.none_or]
    split
    · exact here
    · exact .null

theorem copied (h : Heap) (v : Json.Value) : Copied h v := by
  refine toScript.induct Copied FieldsCopied ItemsCopied ?_ ?_ ?_ ?_ ?_ ?_ ?_ ?_ ?_ ?_ h v
  · exact fun h => ⟨.refl h, .null⟩
  · exact fun h b => ⟨.refl h, .bool b⟩
  · exact fun h n => ⟨.refl h, .number n⟩
  · exact fun h s => ⟨.refl h, .string s⟩
  · exact fun h items _ _ _ _ _ _ inner => inner.array
  · exact fun h entries _ _ _ _ _ _ inner => inner.object
  · exact fun h => ⟨.refl h, fun _ => .null⟩
  · intro h v rest h' value first h'' values others here behind
    rw [show h' = (toScript h v).1 by rw [first]] at behind
    exact ItemsCopied.cons here behind
  · exact fun h => ⟨.refl h, fun _ => .null⟩
  · intro h key v rest h' value first h'' fields others here behind
    rw [show h' = (toScript h v).1 by rw [first]] at behind
    exact FieldsCopied.cons key here behind

theorem lastUnder_of_distinct {o : Object} (distinct : Object.Distinct o) (key : String) :
    lastUnder o key = Object.get? o key := by
  induction o with
  | nil => rfl
  | cons e o ih =>
    obtain ⟨k, v⟩ := e
    obtain ⟨fresh, rest⟩ := List.nodup_cons.mp distinct
    rw [lastUnder, ih rest, Object.get?_cons]
    by_cases same : key = k
    · rw [if_pos same, if_pos same, same, Object.get?_eq_none.mpr fresh, Option.none_or]
    · rw [if_neg same, if_neg same, Option.or_none]

theorem get?_foldl_insert (o entries : Object) (key : String) :
    Object.get? (entries.foldl (fun o e => Object.insert o e.1 e.2) o) key =
      (lastUnder entries key).or (Object.get? o key) := by
  induction entries generalizing o with
  | nil => rfl
  | cons e entries ih =>
    obtain ⟨k, v⟩ := e
    rw [List.foldl_cons, ih, Object.get?_insert, lastUnder, Option.or_assoc]
    split <;> rfl

theorem distinct_foldl_insert {o : Object} (distinct : Object.Distinct o) (entries : Object) :
    Object.Distinct (entries.foldl (fun o e => Object.insert o e.1 e.2) o) := by
  induction entries generalizing o with
  | nil => exact distinct
  | cons e entries ih => exact ih (distinct.insert e.1 e.2)

end SchemaForge.Extension
