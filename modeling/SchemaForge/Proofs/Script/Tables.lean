import SchemaForge.Proofs.Text.Utf8
import SchemaForge.Script.Value

/-! Tables as lists and as records: which items are read from a table as a list, where its values are
found under their keys, and what giving a new text key a value does. -/

namespace SchemaForge.Script

open Text (Utf8.ofString_injective)
open Text.Utf8 (Bytes)

@[simp] theorem Value.isNil_iff {v : Value} : v.isNil = true ↔ v = .nil := by
  cases v <;> simp [isNil]

@[simp] theorem Value.isNil_eq_false {v : Value} : v.isNil = false ↔ v ≠ .nil := by
  cases v <;> simp [isNil]

@[simp] theorem Value.rawEqual_text (a b : String) :
    (Value.text a).rawEqual (.text b) = true ↔ a = b := by
  simp only [Value.text, rawEqual, beq_iff_eq]
  constructor
  · exact Utf8.ofString_injective
  · exact congrArg _

@[simp] theorem Value.rawEqual_string (k : Value) (b : Bytes) :
    k.rawEqual (.string b) = true ↔ k = .string b := by
  cases k <;> simp [rawEqual]

@[simp] theorem Value.string_rawEqual (b : Bytes) (k : Value) :
    (Value.string b).rawEqual k = true ↔ k = .string b := by
  cases k with
  | string c =>
    simp only [rawEqual, beq_iff_eq, string.injEq]
    exact eq_comm
  | _ => simp [rawEqual]

theorem Value.normalKey_eq_string {k : Value} {b : Bytes} (h : k.normalKey = .string b) :
    k = .string b := by
  unfold normalKey at h
  split at h
  · split at h <;> cases h
  · exact h

namespace Table

variable (t : Table) (n : Nat)

theorem getInt_of_lt (h : n < t.items.size) : t.getInt (n + 1) = t.items[n] := by
  have bound : 1 ≤ n + 1 ∧ n + 1 ≤ t.items.size := by omega
  simp [getInt, bound, h]

theorem getInt_of_ge (h : t.items.size ≤ n) (bare : t.entries = []) : t.getInt (n + 1) = .nil := by
  have bound : ¬ n + 1 ≤ t.items.size := by omega
  simp [getInt, bound, bare, held?]

theorem sequenceFrom_of_items (bare : t.entries = []) (fuel : Nat) :
    t.sequenceFrom fuel (n + 1) =
      ((t.items.toList.drop n).take fuel).takeWhile fun v => !v.isNil := by
  induction fuel generalizing n with
  | zero => simp [sequenceFrom]
  | succ fuel ih =>
    by_cases h : n < t.items.size
    · have length : n < t.items.toList.length := by simpa using h
      have hdrop : t.items.toList.drop n = t.items[n] :: t.items.toList.drop (n + 1) :=
        List.drop_eq_getElem_cons length
      rw [sequenceFrom, getInt_of_lt t n h, hdrop, List.take_succ_cons, List.takeWhile_cons, ih]
      cases t.items[n].isNil <;> rfl
    · have hdrop : t.items.toList.drop n = [] := by simp; omega
      rw [sequenceFrom, getInt_of_ge t n (by omega) bare, hdrop]
      rfl

theorem sequence_of_items (bare : t.entries = []) :
    t.sequence = t.items.toList.takeWhile fun v => !v.isNil := by
  rw [sequence, sequenceFrom_of_items t 0 bare]
  simp [bare, ← Array.length_toList]

theorem get_int {i : Int64} (positive : 0 < i.toInt) :
    t.get (.number (.int i)) = t.getInt i.toInt.toNat := by
  have bound : i.toInt.toNat < Word.signedEnd := by
    have := Int64.toInt_lt i
    simp only [Word.signedEnd]
    omega
  have back : Int64.ofInt (i.toInt.toNat : Int) = i := by
    rw [Int.toNat_of_nonneg (by omega), Int64.ofInt_toInt]
  by_cases inside : i.toInt ≤ t.items.size
  · have first : 1 ≤ i.toInt := positive
    have inside' : 1 ≤ i.toInt.toNat ∧ i.toInt.toNat ≤ t.items.size := by omega
    rw [getInt, if_pos inside']
    simp [get, position?, first, inside]
  · have outside : ¬ (1 ≤ i.toInt.toNat ∧ i.toInt.toNat ≤ t.items.size) := by omega
    rw [getInt, if_neg outside, if_pos bound, Value.int, back]
    simp [get, position?, inside]

theorem getElem?_sequenceFrom {fuel n i : Nat} {v : Value}
    (h : (t.sequenceFrom fuel n)[i]? = some v) : v = t.getInt (n + i) ∧ v ≠ .nil := by
  induction fuel generalizing n i with
  | zero => simp [sequenceFrom] at h
  | succ fuel ih =>
    rw [sequenceFrom] at h
    by_cases absent : (t.getInt n).isNil = true
    · simp [absent] at h
    · simp only [absent, Bool.false_eq_true, if_false] at h
      cases i with
      | zero =>
        simp only [List.getElem?_cons_zero, Option.some.injEq] at h
        simpa [← h] using absent
      | succ i =>
        simp only [List.getElem?_cons_succ] at h
        simpa [Nat.add_assoc, Nat.add_comm 1] using ih h

variable {t} {entries more : List (Value × Value)} {key value : Value} {name : String}

theorem held?_append : held? key (entries ++ more) = (held? key entries).or (held? key more) := by
  induction entries with
  | nil => rfl
  | cons e entries ih =>
    simp only [List.cons_append, held?]
    split
    · rfl
    · exact ih

theorem mem_of_held? (h : held? key entries = some value) :
    ∃ k, (k, value) ∈ entries ∧ k.rawEqual key = true := by
  induction entries with
  | nil => cases h
  | cons e entries ih =>
    obtain ⟨k, v⟩ := e
    rw [held?] at h
    split at h
    · next same =>
      obtain rfl := Option.some.inj h
      exact ⟨k, List.mem_cons_self, same⟩
    · obtain ⟨k', hmem, same⟩ := ih h
      exact ⟨k', List.mem_cons_of_mem _ hmem, same⟩

/-- A value is found among the entries that are left where those without a value are taken out. -/
theorem held?_present (present : value ≠ .nil) (h : held? key entries = some value) :
    held? key (entries.filter fun e => !e.2.isNil) = some value := by
  induction entries with
  | nil => cases h
  | cons e entries ih =>
    obtain ⟨k, v⟩ := e
    rw [held?] at h
    by_cases same : k.rawEqual key = true
    · simp only [same, if_true, Option.some.injEq] at h
      simp [h, present, held?, same]
    · simp only [same] at h
      rw [List.filter_cons]
      split
      · simp [held?, same, ih h]
      · exact ih h

theorem items_nil (texts : ∀ e ∈ t.pairs, ∃ b, e.1 = .string b) : ∀ v ∈ t.items.toList, v = .nil := by
  intro v hv
  obtain ⟨i, hi, rfl⟩ := List.getElem_of_mem hv
  by_cases absent : t.items.toList[i] = .nil
  · exact absent
  · have hmem : (Value.int (i + 1), t.items.toList[i]) ∈ t.pairs := by
      simp only [pairs, List.mem_append, List.mem_filter, List.mem_mapIdx]
      exact .inl ⟨⟨i, hi, rfl⟩, by simpa using absent⟩
    obtain ⟨b, hb⟩ := texts _ hmem
    cases hb

theorem held?_pairs (texts : ∀ e ∈ t.pairs, ∃ b, e.1 = .string b) (there : t.get key ≠ .nil) :
    (∃ b, key = .string b) ∧ held? key t.pairs = some (t.get key) := by
  have items := items_nil texts
  have pairs : t.pairs = t.entries.filter fun e => !e.2.isNil := by
    rw [Table.pairs, List.filter_eq_nil_iff.mpr, List.nil_append]
    intro e he
    obtain ⟨i, hi, rfl⟩ := List.mem_mapIdx.mp he
    simp [items _ (List.getElem_mem hi)]
  rw [pairs] at texts ⊢
  unfold get at there ⊢
  cases hposition : t.position? key with
  | some i =>
    simp only [hposition] at there
    cases hitem : t.items[i]? with
    | none => simp [hitem] at there
    | some v =>
      have nil := items v (by simpa using Array.mem_of_getElem? hitem)
      simp [hitem, nil] at there
  | none =>
    simp only [hposition] at there ⊢
    cases hheld : held? key t.entries with
    | none => simp [hheld] at there
    | some value =>
      have present : value ≠ .nil := by simpa [hheld] using there
      obtain ⟨k, hmem, same⟩ := mem_of_held? hheld
      obtain ⟨b, hb⟩ := texts (k, value) (by simp [hmem, present])
      have text : k = .string b := hb
      rw [text, Value.string_rawEqual] at same
      exact ⟨⟨b, same⟩, held?_present present hheld⟩

theorem le_roomFor (n : Nat) : n ≤ roomFor n := by
  unfold roomFor
  split
  · omega
  · have found : ((List.range (n + 1)).find? fun k => n ≤ twoTo k).isSome := by
      rw [List.find?_isSome]
      have fits : n ≤ twoTo n := Nat.le_of_lt Nat.lt_two_pow_self
      exact ⟨n, by simp, by simpa using fits⟩
    obtain ⟨k, hk⟩ := Option.isSome_iff_exists.mp found
    have fits := List.find?_some hk
    simpa [hk] using fits

theorem set_text_nil (absent : held? (.text name) t.entries = none) :
    t.set (.text name) .nil = t := by
  simp [set, position?, Value.text] at absent ⊢
  simp [absent]

theorem set_text (absent : held? (.text name) t.entries = none) (present : value ≠ .nil)
    (room : t.entries.length < t.room) :
    t.set (.text name) value = { t with entries := t.entries ++ [(.text name, value)] } := by
  simp only [Value.text] at absent
  simp [set, addKey, position?, Value.text, absent, present, room]

def textEntries (fields : List (String × Value)) : List (Value × Value) :=
  (fields.filter fun f => !f.2.isNil).map fun f => (.text f.1, f.2)

theorem textEntries_cons_nil (name : String) (fields : List (String × Value)) :
    textEntries ((name, .nil) :: fields) = textEntries fields := by
  simp [textEntries]

theorem textEntries_cons (present : value ≠ .nil) (fields : List (String × Value)) :
    textEntries ((name, value) :: fields) = (.text name, value) :: textEntries fields := by
  simp [textEntries, present]

theorem foldl_set {fields : List (String × Value)} (distinct : (fields.map (·.1)).Nodup)
    (absent : ∀ f ∈ fields, held? (.text f.1) t.entries = none)
    (room : t.entries.length + fields.length ≤ t.room) :
    fields.foldl (fun t f => t.set (.text f.1) f.2) t =
      { t with entries := t.entries ++ textEntries fields } := by
  induction fields generalizing t with
  | nil => simp [textEntries]
  | cons f fields ih =>
    obtain ⟨name, value⟩ := f
    simp only [List.map_cons, List.nodup_cons, List.mem_map, not_exists, not_and] at distinct
    simp only [List.forall_mem_cons] at absent
    simp only [List.length_cons] at room
    rw [List.foldl_cons]
    by_cases present : value = .nil
    · rw [present, set_text_nil absent.1, ih distinct.2 absent.2 (by omega), textEntries_cons_nil]
    · rw [set_text absent.1 present (by omega), ih distinct.2 _ (by simp; omega),
        textEntries_cons present]
      · simp
      · intro g hg
        have other : ¬ name = g.1 := fun same => distinct.1 g hg same.symm
        simp [held?_append, absent.2 g hg, held?, other]

theorem held?_textEntries (n : Numeric) (fields : List (String × Value)) :
    held? (.number n) (textEntries fields) = none := by
  induction fields with
  | nil => rfl
  | cons f fields ih =>
    obtain ⟨name, value⟩ := f
    by_cases present : value = .nil
    · rw [present, textEntries_cons_nil, ih]
    · rw [textEntries_cons present, held?, ih]
      rfl

theorem border_textEntries (fields : List (String × Value)) (room : Nat) (m : Meta) :
    (Table.mk #[] (textEntries fields) room m).border = 0 := by
  simp [border, getInt, Value.int, held?_textEntries, Value.isNil]

theorem pairs_textEntries (fields : List (String × Value)) (room : Nat) (m : Meta) :
    (Table.mk #[] (textEntries fields) room m).pairs = textEntries fields := by
  simp [pairs, textEntries, List.filter_map, Function.comp_def]

def putEntry (name : String) (value : Value) (entries : List (Value × Value)) : List (Value × Value) :=
  if (held? (.text name) entries).isSome then replaceEntry (.text name) value entries
  else if value.isNil then entries
  else entries ++ [(.text name, value)]

theorem set_text_eq (name : String) (value : Value) (room : t.entries.length < t.room) :
    t.set (.text name) value = { t with entries := putEntry name value t.entries } := by
  have off : t.position? (.text name) = none := rfl
  unfold set putEntry
  simp only [off, if_pos room, addKey]
  split
  · rfl
  · split <;> rfl

theorem length_replaceEntry : (replaceEntry (.text name) value entries).length = entries.length := by
  induction entries with
  | nil => rfl
  | cons e entries ih =>
    simp only [replaceEntry]
    split <;> simp [ih]

theorem length_putEntry (name : String) (value : Value) (entries : List (Value × Value)) :
    (putEntry name value entries).length ≤ entries.length + 1 := by
  unfold putEntry
  split
  · rw [length_replaceEntry]
    omega
  · split <;> simp

theorem text_inj {a b : String} (h : Value.text a = .text b) : a = b :=
  Text.Utf8.ofString_injective (Value.string.inj h)

theorem held?_replaceEntry (key : String) :
    held? (.text key) (replaceEntry (.text name) value entries) =
      if key = name then (held? (.text name) entries).map fun _ => value
      else held? (.text key) entries := by
  induction entries with
  | nil => simp [replaceEntry, held?]
  | cons e entries ih =>
    obtain ⟨k, v⟩ := e
    simp only [replaceEntry, held?]
    by_cases here : k.rawEqual (.text name) = true
    · have apart (other : key ≠ name) : ¬ k.rawEqual (.text key) = true := by
        intro back
        rw [Value.text, Value.rawEqual_string] at here back
        exact other (text_inj (back.symm.trans here))
      rw [if_pos here, if_pos here, held?]
      by_cases same : key = name
      · rw [if_pos same, same, if_pos here]
        rfl
      · rw [if_neg same, if_neg (apart same), if_neg (apart same)]
    · rw [if_neg here, if_neg here, held?, ih]
      by_cases same : key = name
      · rw [if_pos same, if_pos same, same, if_neg here]
      · rw [if_neg same, if_neg same]

theorem held?_putEntry (key : String) :
    (held? (.text key) (putEntry name value entries)).getD .nil =
      if key = name then value else (held? (.text key) entries).getD .nil := by
  unfold putEntry
  split
  · next there =>
    obtain ⟨old, held⟩ := Option.isSome_iff_exists.mp there
    rw [held?_replaceEntry]
    by_cases same : key = name
    · simp [same, held]
    · simp [same]
  · next absent =>
    have none : held? (.text name) entries = none := by simpa using absent
    split
    · next nil =>
      have nil' : value = .nil := by simpa using nil
      by_cases same : key = name
      · simp [same, none, nil']
      · simp [same]
    · by_cases same : key = name
      · simp [same, held?_append, none, held?]
      · have apart : ¬ (Value.text name).rawEqual (.text key) = true := by
          rw [Value.rawEqual_text]
          exact fun back => same back.symm
        rw [held?_append, held?, if_neg apart, if_neg same]
        simp [held?]

theorem keys_replaceEntry (texts : ∀ e ∈ entries, ∃ key, e.1 = .text key) :
    ∀ e ∈ replaceEntry (.text name) value entries, ∃ key, e.1 = .text key := by
  induction entries with
  | nil =>
    intro e held
    cases held
  | cons e entries ih =>
    obtain ⟨first, rest⟩ := List.forall_mem_cons.mp texts
    simp only [replaceEntry]
    split
    · exact List.forall_mem_cons.mpr ⟨first, rest⟩
    · exact List.forall_mem_cons.mpr ⟨first, ih rest⟩

theorem keys_putEntry (texts : ∀ e ∈ entries, ∃ key, e.1 = .text key) :
    ∀ e ∈ putEntry name value entries, ∃ key, e.1 = .text key := by
  unfold putEntry
  split
  · exact keys_replaceEntry texts
  · split
    · exact texts
    · simp only [List.forall_mem_append, List.forall_mem_singleton]
      exact ⟨texts, name, rfl⟩

end Table

def lastUnder {α : Type} : List (String × α) → String → Option α
  | [], _ => none
  | (k, v) :: rest, key => (lastUnder rest key).or (if key = k then some v else none)

theorem lastUnder_eq_none {α : Type} {entries : List (String × α)} {key : String} :
    lastUnder entries key = none ↔ key ∉ entries.map (·.1) := by
  induction entries with
  | nil => simp [lastUnder]
  | cons e entries ih =>
    obtain ⟨k, v⟩ := e
    rw [lastUnder, Option.or_eq_none_iff, ih, List.map_cons, List.mem_cons, not_or, and_comm]
    simp

namespace Table

structure Keyed (t : Table) : Prop where
  items : t.items = #[]
  plain : t.metatable = .none
  texts : ∀ e ∈ t.entries, ∃ key, e.1 = .text key

variable {t : Table} {fields : List (String × Value)}

theorem Keyed.pairs (keyed : t.Keyed) : ∀ e ∈ t.pairs, ∃ key, e.1 = .text key := by
  intro e he
  have entry : e ∈ t.entries ∧ e.2 ≠ .nil := by simpa [Table.pairs, keyed.items] using he
  exact keyed.texts e entry.1

/-- Fields that are set one after the other: of those with one key the last one stays. -/
theorem foldl_set_keyed (keyed : t.Keyed) (room : t.entries.length + fields.length ≤ t.room) :
    (fields.foldl (fun t f => t.set (.text f.1) f.2) t).Keyed ∧
      ∀ key, (fields.foldl (fun t f => t.set (.text f.1) f.2) t).get (.text key) =
        (lastUnder fields key).getD (t.get (.text key)) := by
  induction fields generalizing t with
  | nil => exact ⟨keyed, fun _ => rfl⟩
  | cons f fields ih =>
    obtain ⟨name, value⟩ := f
    rw [List.length_cons] at room
    have length := length_putEntry name value t.entries
    have keyed' : (t.set (.text name) value).Keyed := by
      rw [set_text_eq name value (by omega)]
      exact ⟨keyed.items, keyed.plain, keys_putEntry keyed.texts⟩
    have got (key : String) : (t.set (.text name) value).get (.text key) =
        if key = name then value else t.get (.text key) := by
      rw [set_text_eq name value (by omega)]
      exact held?_putEntry key
    have rest := ih keyed' (by rw [set_text_eq name value (by omega)]; dsimp only; omega)
    refine ⟨rest.1, fun key => ?_⟩
    rw [List.foldl_cons, rest.2, got, lastUnder]
    cases lastUnder fields key with
    | some v => rfl
    | none => split <;> rfl

end Table

end SchemaForge.Script
