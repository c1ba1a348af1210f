import Mathlib
import SchemaForge.Extension.Marshal
import SchemaForge.Proofs.Json.Keys
import SchemaForge.Proofs.Outcome
import SchemaForge.Proofs.Script.Tables

/-! What becomes of the entries of tables that are converted. An entry of a table that is read as a
record is kept or the conversion fails. A table that is read as a list keeps the values up to the
first position without one, and loses whatever else it holds without a word. -/

namespace SchemaForge

open Text (Utf8.decode Utf8.ofString_of_decode)

/-- The value behind keys that lead from table to table, nil where one of them leads nowhere. -/
def Script.Heap.follow (h : Script.Heap) (v : Script.Value) : List Script.Value → Script.Value
  | [] => v
  | key :: keys =>
    match v with
    | .table place => follow h ((h.table place).get key.normalKey) keys
    | _ => .nil

namespace Script.Heap

variable (h : Heap) (v : Value)

theorem follow_nil (keys : List Value) : h.follow .nil keys = .nil := by
  cases keys <;> rfl

theorem follow_append (keys more : List Value) :
    h.follow v (keys ++ more) = h.follow (h.follow v keys) more := by
  induction keys generalizing v with
  | nil => rfl
  | cons key keys ih =>
    cases v with
    | table place => exact ih _
    | _ => exact (follow_nil h more).symm

theorem follow_cons_ne_nil {v : Value} {key : Value} {keys : List Value}
    (there : h.follow v (key :: keys) ≠ .nil) : ∃ place, v = .table place ∧
      (h.table place).get key.normalKey ≠ .nil := by
  cases v with
  | table place =>
    refine ⟨place, rfl, fun absent => there ?_⟩
    rw [follow, absent, follow_nil]
  | _ => exact absurd rfl there

end Script.Heap

namespace Json.Value

/-- The part of a value that an entry under a script's key stands for: an item by its position from 1
on, a field by its name. -/
def part? (r : Json.Value) (key : Script.Value) : Option Json.Value :=
  match r, key with
  | .array items, .number (.int i) =>
    if 0 < i.toInt then items[i.toInt.toNat - 1]? else none
  | .object o, .string b =>
    match Utf8.decode b with
    | .ok name => Object.get? o name
    | .error _ => none
  | _, _ => none

def follow? (r : Json.Value) : List Script.Value → Option Json.Value
  | [] => some r
  | key :: keys => (r.part? key.normalKey).bind (·.follow? keys)

theorem follow?_append (r : Json.Value) (keys more : List Script.Value) :
    r.follow? (keys ++ more) = (r.follow? keys).bind (·.follow? more) := by
  induction keys generalizing r with
  | nil => rfl
  | cons key keys ih =>
    rw [List.cons_append, follow?, follow?]
    cases r.part? key.normalKey with
    | none => rfl
    | some part => exact ih part

theorem part?_array {items : List Json.Value} {key : Script.Value} {w : Json.Value} :
    (Json.Value.array items).part? key = some w ↔ ∃ i : Int64, key = .number (.int i) ∧
      0 < i.toInt ∧ items[i.toInt.toNat - 1]? = some w := by
  cases key with
  | number n => cases n <;> simp [part?]
  | _ => simp [part?]

theorem part?_empty {r : Json.Value} (empty : r = .array [] ∨ r = .object []) (key : Script.Value) :
    r.part? key = none := by
  rcases empty with rfl | rfl
  · cases key with
    | number n => cases n <;> simp [part?]
    | _ => simp [part?]
  · cases key with
    | string b =>
      simp only [part?]
      split <;> rfl
    | _ => simp [part?]

end Json.Value

namespace Extension

open Json (Object)
open Script (Heap Table)

/-- A value of scripts and what shows of it: a number, text or truth value itself, and that a table is
a list or a record. -/
inductive Shows : Script.Value → Json.Value → Prop
  | bool (b : Bool) : Shows (.bool b) (.bool b)
  | int (i : Int64) : Shows (.number (.int i)) (.number (.int i.toInt))
  | float (x : Float) : Shows (.number (.float x)) (.ofFloat x)
  | string {b : Text.Utf8.Bytes} {s : String} (decodes : Utf8.decode b = .ok s) :
      Shows (.string b) (.string s)
  | list (place : Nat) (items : List Json.Value) : Shows (.table place) (.array items)
  | record (place : Nat) (o : Object) : Shows (.table place) (.object o)

/-- Every entry of a table, and of every table inside of it, is present in what it is converted to. -/
def Kept (h : Heap) (v : Script.Value) (r : Json.Value) : Prop :=
  ∀ keys, h.follow v keys ≠ .nil → ∃ w, r.follow? keys = some w ∧ Shows (h.follow v keys) w

/-- A position from 1 to `n`. -/
def Position (n : Nat) (key : Script.Value) : Prop :=
  ∃ i : Int64, key = .number (.int i) ∧ 0 < i.toInt ∧ i.toInt ≤ n

/-- A table that holds nothing but its list if it is read as one. -/
def Unmixed (t : Table) : Prop :=
  isList t = true → ∀ key : Script.Value,
    t.get key.normalKey ≠ .nil → Position t.sequence.length key.normalKey

def Converts (h : Heap) (v : Script.Value) (w : Json.Value) : Prop :=
  ∃ depth around, valueToJson h depth around v = .ok w

section Steps

variable {h : Heap} {place : Nat} {w : Json.Value} {around : List Nat}
  {convert : Script.Value → Except ConversionError Json.Value} {first : Bool}

theorem keyText_eq_ok {key : Script.Value} {name : String}
    (reads : keyText h around first key = .ok name) :
    ∃ b, key = .string b ∧ Utf8.decode b = .ok name := by
  unfold keyText at reads
  split at reads
  · next b =>
    split at reads
    · next decodes =>
      cases reads
      exact ⟨b, rfl, decodes⟩
    · cases reads
  · split at reads <;> cases reads
  · cases reads
  · cases reads
  · cases reads

theorem entriesToJson_cons_eq_ok {key value : Script.Value}
    {rest : List (Script.Value × Script.Value)} {o : Object}
    (reads : entriesToJson h around convert first ((key, value) :: rest) = .ok o) :
    ∃ b name w others, key = .string b ∧ Utf8.decode b = .ok name ∧ convert value = .ok w ∧
      entriesToJson h around convert false rest = .ok others ∧ o = (name, w) :: others := by
  unfold entriesToJson at reads
  dsimp only at reads
  simp only [Outcome.ite_error_eq_ok, Outcome.bind_eq_ok] at reads
  obtain ⟨-, name, hname, w, hw, others, hothers, ho⟩ := reads
  obtain ⟨b, hb, decodes⟩ := keyText_eq_ok hname
  exact ⟨b, name, w, others, hb, decodes, hw, hothers, (Except.ok.inj ho).symm⟩

theorem entriesToJson_keys {entries : List (Script.Value × Script.Value)} {o : Object}
    (reads : entriesToJson h around convert first entries = .ok o) :
    ∀ e ∈ entries, ∃ b, e.1 = .string b := by
  induction entries generalizing first o with
  | nil => simp
  | cons e entries ih =>
    obtain ⟨b, name, w, others, hb, -, -, hothers, -⟩ := entriesToJson_cons_eq_ok reads
    simp only [List.forall_mem_cons]
    exact ⟨⟨b, hb⟩, ih hothers⟩

/-- The first entry under a key is the first field of its name, since no two keys are one name. -/
theorem get?_of_entriesToJson {entries : List (Script.Value × Script.Value)} {o : Object}
    (reads : entriesToJson h around convert first entries = .ok o) {b : Text.Utf8.Bytes}
    {value : Script.Value} (held : Table.held? (.string b) entries = some value) :
    ∃ name w, Utf8.decode b = .ok name ∧ Object.get? o name = some w ∧ convert value = .ok w := by
  induction entries generalizing first o with
  | nil => cases held
  | cons e entries ih =>
    obtain ⟨key, u⟩ := e
    obtain ⟨b', name', w', others, rfl, decodes', hw', hothers, rfl⟩ := entriesToJson_cons_eq_ok reads
    rw [Table.held?] at held
    by_cases same : b' = b
    · simp only [same, Script.Value.rawEqual_string, if_true, Option.some.injEq] at held
      rw [same] at decodes'
      rw [held] at hw'
      exact ⟨name', w', decodes', by simp [Object.get?_cons], hw'⟩
    · simp only [Script.Value.rawEqual_string, Script.Value.string.injEq, same, if_false] at held
      obtain ⟨name, w, decodes, hget, hw⟩ := ih hothers held
      have other : name ≠ name' := by
        rintro rfl
        have bytes := Utf8.ofString_of_decode decodes
        have bytes' := Utf8.ofString_of_decode decodes'
        exact same (bytes'.symm.trans bytes)
      exact ⟨name, w, decodes, by simpa [Object.get?_cons, other] using hget, hw⟩

/-- A table that is read as a record has text keys only, and each of its values is converted. -/
theorem record_entry {t : Table} {o : Object}
    (reads : entriesToJson h around convert true t.pairs = .ok o) {key : Script.Value}
    (there : t.get key ≠ .nil) :
    ∃ b name w, key = .string b ∧ Utf8.decode b = .ok name ∧ Object.get? o name = some w ∧
      convert (t.get key) = .ok w := by
  obtain ⟨⟨b, rfl⟩, held⟩ := Table.held?_pairs (entriesToJson_keys reads) there
  obtain ⟨name, w, decodes, hget, hw⟩ := get?_of_entriesToJson reads held
  exact ⟨b, name, w, rfl, decodes, hget, hw⟩

end Steps

namespace Converts

variable {h : Heap} {v : Script.Value} {place : Nat} {w w' : Json.Value} {key : Script.Value}

theorem list (converts : Converts h (.table place) w) (asList : isList (h.table place) = true) :
    ∃ items, w = .array items ∧ List.Forall₂ (Converts h) (h.table place).sequence items := by
  obtain ⟨depth, around, reads⟩ := converts
  unfold valueToJson at reads
  simp only [Outcome.ite_error_eq_ok] at reads
  cases depth with
  | zero => cases reads.2
  | succ depth =>
    simp only [asList, if_true] at reads
    obtain ⟨-, items, hitems, rfl⟩ := (reads.imp_right Outcome.map_eq_ok.mp)
    refine ⟨items, rfl, (Outcome.mapM_eq_ok.mp hitems).imp fun v w hw => ?_⟩
    exact ⟨depth, place :: around, hw⟩

theorem record (converts : Converts h (.table place) w) (asRecord : isList (h.table place) = false) :
    ∃ o, w = .object o ∧ ∀ key, (h.table place).get key ≠ .nil →
      ∃ b name w', key = .string b ∧ Utf8.decode b = .ok name ∧ Object.get? o name = some w' ∧
        Converts h ((h.table place).get key) w' := by
  obtain ⟨depth, around, reads⟩ := converts
  unfold valueToJson at reads
  simp only [Outcome.ite_error_eq_ok] at reads
  cases depth with
  | zero => cases reads.2
  | succ depth =>
    simp only [asRecord, Bool.false_eq_true, if_false] at reads
    obtain ⟨-, o, ho, rfl⟩ := (reads.imp_right Outcome.map_eq_ok.mp)
    refine ⟨o, rfl, fun key there => ?_⟩
    obtain ⟨b, name, w', hb, decodes, hget, hw⟩ := record_entry ho there
    exact ⟨b, name, w', hb, decodes, hget, depth, place :: around, hw⟩

theorem shows (converts : Converts h v w) (present : v ≠ .nil) : Shows v w := by
  cases v with
  | table place =>
    cases hlist : isList (h.table place) with
    | true =>
      obtain ⟨items, rfl, -⟩ := converts.list hlist
      exact .list place items
    | false =>
      obtain ⟨o, rfl, -⟩ := converts.record hlist
      exact .record place o
  | nil => exact absurd rfl present
  | bool b =>
    obtain ⟨depth, around, reads⟩ := converts
    rw [valueToJson] at reads
    exact Except.ok.inj reads ▸ .bool b
  | number n =>
    obtain ⟨depth, around, reads⟩ := converts
    cases n with
    | int i =>
      rw [valueToJson] at reads
      exact Except.ok.inj reads ▸ .int i
    | float x =>
      rw [valueToJson] at reads
      exact Except.ok.inj reads ▸ .float x
  | string b =>
    obtain ⟨depth, around, reads⟩ := converts
    rw [valueToJson] at reads
    split at reads
    · next decodes => exact Except.ok.inj reads ▸ .string decodes
    · cases reads
  | closure | builtin | host | failure | thread | file =>
    obtain ⟨depth, around, reads⟩ := converts
    simp [valueToJson] at reads

/-- What is found under a key is what the entry there is converted to. Something is found under every
key in use, but for keys of a list that are no position in it. -/
theorem part (converts : Converts h (.table place) w) (there : (h.table place).get key ≠ .nil) :
    (∀ w', w.part? key = some w' → Converts h ((h.table place).get key) w') ∧
      ((∃ w', w.part? key = some w') ↔
        (isList (h.table place) = true → Position (h.table place).sequence.length key)) := by
  cases hlist : isList (h.table place) with
  | true =>
    obtain ⟨items, rfl, each⟩ := converts.list hlist
    have length := each.length_eq
    simp only [Json.Value.part?_array, Position, forall_const]
    constructor
    · rintro w' ⟨i, rfl, positive, hitem⟩
      obtain ⟨v, hv, hw⟩ := Outcome.exists_of_getElem?_right each hitem
      have value := (Table.getElem?_sequenceFrom _ hv).1
      have place : 1 + (i.toInt.toNat - 1) = i.toInt.toNat := by omega
      rw [Table.get_int _ positive, ← place, ← value]
      exact hw
    · constructor
      · rintro ⟨w', i, rfl, positive, hitem⟩
        have inside := (List.getElem?_eq_some_iff.mp hitem).1
        exact ⟨i, rfl, positive, by omega⟩
      · rintro ⟨i, rfl, positive, inside⟩
        have bound : i.toInt.toNat - 1 < items.length := by omega
        exact ⟨items[i.toInt.toNat - 1], i, rfl, positive, List.getElem?_eq_getElem bound⟩
  | false =>
    obtain ⟨o, rfl, each⟩ := converts.record hlist
    obtain ⟨b, name, w', rfl, decodes, hget, hw⟩ := each key there
    have part : (Json.Value.object o).part? (.string b) = some w' := by
      simp [Json.Value.part?, decodes, hget]
    refine ⟨fun w'' hw'' => ?_, by simp [part]⟩
    rw [part] at hw''
    exact Option.some.inj hw'' ▸ hw

theorem follow (converts : Converts h v w) {keys : List Script.Value}
    (found : w.follow? keys = some w') (there : h.follow v keys ≠ .nil) :
    Converts h (h.follow v keys) w' := by
  induction keys generalizing v w with
  | nil => exact Option.some.inj found ▸ converts
  | cons key keys ih =>
    obtain ⟨place, rfl, inUse⟩ := Script.Heap.follow_cons_ne_nil h there
    obtain ⟨u, hu, found⟩ := Option.bind_eq_some_iff.mp found
    exact ih ((converts.part inUse).1 u hu) found there

/-- Along tables that hold nothing but their lists if they are read as lists, every entry is kept. -/
theorem kept (converts : Converts h v w)
    (unmixed : ∀ keys place, h.follow v keys = .table place → Unmixed (h.table place)) :
    Kept h v w := by
  intro keys there
  suffices found : ∃ w', w.follow? keys = some w' by
    obtain ⟨w', found⟩ := found
    exact ⟨w', found, (converts.follow found there).shows there⟩
  induction keys generalizing v w with
  | nil => exact ⟨w, rfl⟩
  | cons key keys ih =>
    obtain ⟨place, rfl, inUse⟩ := Script.Heap.follow_cons_ne_nil h there
    have step := converts.part inUse
    obtain ⟨u, hu⟩ := step.2.mpr fun asList => unmixed [] place rfl asList key inUse
    obtain ⟨w', found⟩ := ih (step.1 u hu) (fun keys => unmixed (key :: keys)) there
    exact ⟨w', Option.bind_eq_some_iff.mpr ⟨u, hu, found⟩⟩

theorem unmixed (converts : Converts h v w) (kept : Kept h v w) {keys : List Script.Value}
    (table : h.follow v keys = .table place) : Unmixed (h.table place) := by
  intro asList key inUse
  have here : h.follow v keys ≠ .nil := by simp [table]
  have below : h.follow v (keys ++ [key]) = (h.table place).get key.normalKey := by
    rw [Script.Heap.follow_append, table]
    rfl
  obtain ⟨w', hw', -⟩ := kept (keys ++ [key]) (below ▸ inUse)
  rw [Json.Value.follow?_append, Option.bind_eq_some_iff] at hw'
  obtain ⟨u, hu, found⟩ := hw'
  obtain ⟨w'', part, -⟩ := Option.bind_eq_some_iff.mp found
  have inside := converts.follow hu here
  rw [table] at inside
  exact (inside.part inUse).2.mp ⟨w'', part⟩ asList

end Converts

section Results

variable {h : Heap} {place : Nat} {r w : Json.Value} {kind : ResultKind}

theorem converts_of_tableToJson (reads : tableToJson h place = .ok w) :
    Converts h (.table place) w := by
  unfold tableToJson at reads
  split at reads
  · next hw =>
    cases reads
    exact ⟨_, _, hw⟩
  · cases reads

theorem converts_of_convert (table : kind = .array ∨ kind = .object)
    (converts : kind.convert h (.table place) = .ok r) :
    (kind = .array → ∃ items, r = .array items) ∧ (kind = .object → ∃ o, r = .object o) ∧
      ∃ w, Converts h (.table place) w ∧
        (r = w ∨ (r = .array [] ∨ r = .object []) ∧ (w = .array [] ∨ w = .object [])) := by
  rcases table with rfl | rfl
  · simp only [ResultKind.convert, Outcome.bind_eq_ok] at converts
    obtain ⟨w, reads, converts⟩ := converts
    have inner := converts_of_tableToJson reads
    split at converts
    · next items =>
      cases converts
      exact ⟨fun _ => ⟨items, rfl⟩, nofun, _, inner, .inl rfl⟩
    · cases converts
      exact ⟨fun _ => ⟨[], rfl⟩, nofun, _, inner, .inr ⟨.inl rfl, .inr rfl⟩⟩
    · cases converts
  · simp only [ResultKind.convert, Outcome.bind_eq_ok] at converts
    obtain ⟨w, reads, converts⟩ := converts
    have inner := converts_of_tableToJson reads
    split at converts
    · next o =>
      cases converts
      exact ⟨nofun, fun _ => ⟨o, rfl⟩, _, inner, .inl rfl⟩
    · cases converts
      exact ⟨nofun, fun _ => ⟨[], rfl⟩, _, inner, .inr ⟨.inr rfl, .inl rfl⟩⟩
    · cases converts

theorem kept_empty (empty : r = .array [] ∨ r = .object []) : Kept h (.table place) r ↔
    ∀ keys, h.follow (.table place) keys ≠ .nil → keys = [] := by
  constructor
  · intro kept keys there
    cases keys with
    | nil => rfl
    | cons key keys =>
      obtain ⟨w, found, -⟩ := kept (key :: keys) there
      simp [Json.Value.follow?, Json.Value.part?_empty empty] at found
  · intro none keys there
    obtain rfl := none keys there
    rcases empty with rfl | rfl
    · exact ⟨_, rfl, .list place []⟩
    · exact ⟨_, rfl, .record place []⟩

theorem not_position_zero (key : Script.Value) : ¬ Position 0 key := by
  rintro ⟨i, -, positive, inside⟩
  omega

/-- The keys in use of a table that is no mixture are those that its form has. -/
theorem Converts.keys (converts : Converts h (.table place) w) (unmixed : Unmixed (h.table place))
    (key : Script.Value) :
    (isList (h.table place) = true → ((h.table place).get key.normalKey ≠ .nil ↔
      Position (h.table place).sequence.length key.normalKey)) ∧
    (isList (h.table place) = false → (h.table place).get key.normalKey ≠ .nil →
      ∃ b, key = .string b) := by
  refine ⟨fun asList => ⟨unmixed asList key, ?_⟩, fun asRecord there => ?_⟩
  · rintro ⟨i, hi, positive, inside⟩
    have bound : i.toInt.toNat - 1 < (h.table place).sequence.length := by omega
    obtain ⟨value, present⟩ :=
      Table.getElem?_sequenceFrom _ (List.getElem?_eq_getElem bound)
    have shift : 1 + (i.toInt.toNat - 1) = i.toInt.toNat := by omega
    rw [hi, Table.get_int _ positive, ← shift, ← value]
    exact present
  · obtain ⟨o, -, each⟩ := converts.record asRecord
    obtain ⟨b, -, -, hb, -⟩ := each _ there
    exact ⟨b, Script.Value.normalKey_eq_string hb⟩

/-- Where a table is converted to an array or object, its entries and those of the tables inside of it
are all kept just when none of these tables is a list with something else beside. Such a table has the
keys that its kind asks for. -/
theorem convert_keeps_entries (table : kind = .array ∨ kind = .object)
    (converts : kind.convert h (.table place) = .ok r) :
    (Kept h (.table place) r ↔ ∀ keys inner, h.follow (.table place) keys = .table inner →
      Unmixed (h.table inner)) ∧
    (Unmixed (h.table place) →
      (kind = .array → ∃ n, ∀ key : Script.Value,
        (h.table place).get key.normalKey ≠ .nil ↔ Position n key.normalKey) ∧
      (kind = .object → ∀ key : Script.Value,
        (h.table place).get key.normalKey ≠ .nil → ∃ b, key = .string b)) := by
  obtain ⟨isArray, isObject, w, inner, same⟩ := converts_of_convert table converts
  constructor
  · have keptW : Kept h (.table place) w ↔ ∀ keys inner,
        h.follow (.table place) keys = .table inner → Unmixed (h.table inner) :=
      ⟨fun kept keys place' table' => inner.unmixed kept table', inner.kept⟩
    rcases same with rfl | ⟨emptyR, emptyW⟩
    · exact keptW
    · rw [kept_empty emptyR, ← kept_empty emptyW]
      exact keptW
  intro unmixed
  have keys := inner.keys unmixed
  cases hlist : isList (h.table place) with
  | true =>
    refine ⟨fun _ => ⟨_, fun key => (keys key).1 hlist⟩, fun hkind key there => ?_⟩
    -- An object comes of a list only where the list is empty.
    obtain ⟨o, rfl⟩ := isObject hkind
    obtain ⟨items, rfl, each⟩ := inner.list hlist
    obtain ⟨-, rfl⟩ : o = [] ∧ items = [] := by simpa using same
    have length : (h.table place).sequence.length = 0 := each.length_eq
    have position := unmixed hlist key there
    rw [length] at position
    exact absurd position (not_position_zero _)
  | false =>
    refine ⟨fun hkind => ⟨0, fun key => ?_⟩, fun _ key there => (keys key).2 hlist there⟩
    obtain ⟨items, rfl⟩ := isArray hkind
    obtain ⟨o, rfl, each⟩ := inner.record hlist
    obtain ⟨-, rfl⟩ : items = [] ∧ o = [] := by simpa using same
    simp only [not_position_zero, iff_false, not_not]
    by_cases there : (h.table place).get key.normalKey = .nil
    · exact there
    · obtain ⟨b, name, w', -, -, hget, -⟩ := each _ there
      simp [Object.get?] at hget

end Results

theorem unmixed_of_record {t : Table} (asRecord : isList t = false) : Unmixed t :=
  fun asList => absurd asList (by simp [asRecord])

theorem unmixed_of_items {t : Table} (bare : t.entries = []) (present : ∀ v ∈ t.items.toList, v ≠ .nil) :
    Unmixed t := by
  intro _ key inUse
  have whole : t.sequence = t.items.toList := by
    rw [Table.sequence_of_items t bare, List.takeWhile_eq_self_iff]
    intro v inside
    cases v <;> first
      | exact absurd rfl (present _ inside)
      | rfl
  rw [whole]
  generalize key.normalKey = key at inUse
  cases key with
  | number n =>
    cases n with
    | int i =>
      by_cases inside : 1 ≤ i.toInt ∧ i.toInt ≤ t.items.size
      · exact ⟨i, rfl, inside.1, by simpa using inside.2⟩
      · simp [Table.get, Table.position?, Table.held?, inside, bare] at inUse
    | float x => simp [Table.get, Table.position?, Table.held?, bare] at inUse
  | _ => simp [Table.get, Table.position?, Table.held?, bare] at inUse

def nestedTables : Heap :=
  { Heap.empty with tables := #[⟨#[.int 1, .text "two", .table 1], [], 0, .none⟩,
    ⟨#[], [(.text "x", .int 2), (.text "y", .table 2)], 2, .none⟩, ⟨#[.bool true, .int 3], [], 0, .none⟩] }

theorem unmixed_nestedTables (place : Nat) : Unmixed (nestedTables.table place) :=
  match place with
  | 0 => unmixed_of_items rfl (by simp [nestedTables, Heap.table, Script.Value.int, Script.Value.text])
  | 1 => unmixed_of_record rfl
  | 2 => unmixed_of_items rfl (by simp [nestedTables, Heap.table, Script.Value.int])
  | _ + 3 => unmixed_of_record rfl

theorem convert_keeps_entries_of_nested :
    let r : Json.Value := .array [.number (.int 1), .string "two",
      .object [("x", .number (.int 2)), ("y", .array [.bool true, .number (.int 3)])]]
    ResultKind.array.convert nestedTables (.table 0) = .ok r ∧ Kept nestedTables (.table 0) r ∧
      nestedTables.follow (.table 0) [.int 3, .text "y", .int 2] = .int 3 := by
  intro r
  have converts : ResultKind.array.convert nestedTables (.table 0) = .ok r := by cbv
  have kept := (convert_keeps_entries (.inl rfl) converts).1.mpr fun _ inner _ =>
    unmixed_nestedTables inner
  exact ⟨converts, kept, rfl⟩

def oneItem (entries : List (Script.Value × Script.Value)) : Heap :=
  { Heap.empty with tables := #[⟨#[.int 1], entries, entries.length, .none⟩] }

theorem convert_loses_entry :
    let h := oneItem [(.text "x", .int 2)]
    ResultKind.array.convert h (.table 0) = .ok (.array [.number (.int 1)]) ∧
      h.follow (.table 0) [.text "x"] = .int 2 ∧
      ¬ Kept h (.table 0) (.array [.number (.int 1)]) := by
  intro h
  have entry : h.follow (.table 0) [.text "x"] = .int 2 := rfl
  refine ⟨rfl, entry, fun kept => ?_⟩
  obtain ⟨w, found, -⟩ := kept [.text "x"] (by simp [entry, Script.Value.int])
  cases found

end Extension

end SchemaForge
