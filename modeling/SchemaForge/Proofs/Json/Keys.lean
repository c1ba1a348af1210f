import SchemaForge.Json.Value
import Mathlib.Data.List.Nodup

/-! Objects none of whose keys stands twice. In such an object a key has one value wherever it
stands, so that looking it up, giving it a value and taking it out do not hang on the order. -/

namespace SchemaForge.Json

namespace Object

variable {o o' : Object} {k key : String} {v value : Value}

theorem mem_keys_of_mem (h : (k, v) ∈ o) : k ∈ keys o := List.mem_map.mpr ⟨(k, v), h, rfl⟩

theorem get?_cons (e : String × Value) (o : Object) (key : String) :
    get? (e :: o) key = if key = e.1 then some e.2 else get? o key := by
  obtain ⟨k, v⟩ := e
  unfold get?
  by_cases h : key = k
  · subst h
    simp
  · have hb : (key == k) = false := beq_eq_false_iff_ne.mpr h
    simp only [List.lookup_cons, hb, h, if_false]

theorem get?_eq_none : get? o key = none ↔ key ∉ keys o := by
  induction o with
  | nil => simp [get?, keys]
  | cons e o ih =>
    rw [get?_cons]
    by_cases h : key = e.1
    · simp [h, keys]
    · simpa [h, keys] using ih

theorem contains_iff : contains o key = true ↔ key ∈ keys o := by
  simp [contains, keys]

theorem contains_iff_get? : contains o key = true ↔ ∃ v, get? o key = some v := by
  rw [contains_iff, ← Option.isSome_iff_exists, Option.isSome_iff_ne_none, ne_eq, get?_eq_none,
    not_not]

theorem mem_of_get? (h : get? o key = some v) : (key, v) ∈ o := by
  induction o with
  | nil => cases h
  | cons e o ih =>
    rw [get?_cons] at h
    split at h
    · next hk =>
      rw [hk, ← Option.some.inj h]
      exact List.mem_cons_self
    · exact List.mem_cons_of_mem e (ih h)

theorem get?_eq_some (distinct : Distinct o) : get? o key = some v ↔ (key, v) ∈ o := by
  constructor
  · exact mem_of_get?
  · intro hmem
    induction o with
    | nil => cases hmem
    | cons e o ih =>
      obtain ⟨fresh, rest⟩ := List.nodup_cons.mp distinct
      rw [get?_cons]
      rcases List.mem_cons.mp hmem with rfl | hmem
      · simp
      · rw [if_neg, ih rest hmem]
        rintro rfl
        exact fresh (mem_keys_of_mem hmem)

theorem Distinct.perm (h : o.Perm o') (distinct : Distinct o) : Distinct o' :=
  (h.map Prod.fst).nodup_iff.mp distinct

theorem keys_insert (o : Object) (key : String) (value : Value) :
    keys (insert o key value) = if key ∈ keys o then keys o else keys o ++ [key] := by
  induction o with
  | nil => simp [insert, keys]
  | cons e o ih =>
    obtain ⟨k, v⟩ := e
    simp only [insert]
    by_cases h : k = key
    · simp [h, keys]
    · have hb : (k == key) = false := beq_eq_false_iff_ne.mpr h
      simp only [hb, Bool.false_eq_true, if_false]
      rw [show keys ((k, v) :: insert o key value) = k :: keys (insert o key value) from rfl, ih]
      rw [show keys ((k, v) :: o) = k :: keys o from rfl]
      simp only [List.mem_cons, Ne.symm h, false_or]
      split <;> rfl

theorem nodup_concat {names : List String} {name : String} (nodup : names.Nodup)
    (fresh : name ∉ names) : (names ++ [name]).Nodup := by
  rw [List.nodup_append]
  refine ⟨nodup, List.nodup_singleton name, fun a ha b hb hab => ?_⟩
  rw [hab, List.mem_singleton.mp hb] at ha
  exact fresh ha

theorem Distinct.insert (distinct : Distinct o) (key : String) (value : Value) :
    Distinct (insert o key value) := by
  unfold Distinct
  rw [keys_insert]
  split
  · exact distinct
  · next h =>
    exact nodup_concat distinct h

theorem mem_insert {e : String × Value} (h : e ∈ insert o key value) :
    e = (key, value) ∨ e ∈ o := by
  induction o with
  | nil => simpa [insert] using h
  | cons e' o ih =>
    obtain ⟨k, v⟩ := e'
    simp only [insert] at h
    split at h
    · rcases List.mem_cons.mp h with rfl | h
      · exact .inl rfl
      · exact .inr (List.mem_cons_of_mem _ h)
    · rcases List.mem_cons.mp h with rfl | h
      · exact .inr List.mem_cons_self
      · rcases ih h with rfl | h
        · exact .inl rfl
        · exact .inr (List.mem_cons_of_mem _ h)

theorem get?_insert (o : Object) (key : String) (value : Value) (k : String) :
    get? (insert o key value) k = if k = key then some value else get? o k := by
  induction o with
  | nil => simp only [insert, get?_cons]
  | cons e o ih =>
    obtain ⟨k', v⟩ := e
    simp only [insert]
    by_cases h : k' = key
    · subst h
      simp only [beq_self_eq_true, if_true, get?_cons]
      split <;> rfl
    · have hb : (k' == key) = false := beq_eq_false_iff_ne.mpr h
      simp only [hb, Bool.false_eq_true, if_false, get?_cons, ih]
      by_cases hk : k = k'
      · subst hk
        simp [h]
      · simp [hk]

theorem erase_of_not_mem (h : key ∉ keys o) : erase o key = o := by
  rw [erase, List.filter_eq_self]
  rintro ⟨k, v⟩ hmem
  simp only [bne_iff_ne]
  rintro rfl
  exact h (mem_keys_of_mem hmem)

theorem eraseSwap_perm (distinct : Distinct o) (key : String) :
    (eraseSwap o key).Perm (erase o key) := by
  induction o with
  | nil => exact .nil
  | cons e o ih =>
    obtain ⟨k, v⟩ := e
    obtain ⟨fresh, rest⟩ := List.nodup_cons.mp distinct
    simp only [eraseSwap]
    by_cases h : k = key
    · subst h
      have hrest : erase ((k, v) :: o) k = o := by
        rw [show erase ((k, v) :: o) k = erase o k by simp [erase], erase_of_not_mem fresh]
      simp only [beq_self_eq_true, if_true, hrest]
      cases hlast : o.getLast? with
      | none =>
        rw [List.getLast?_eq_none_iff.mp hlast]
      | some last =>
        obtain ⟨front, rfl⟩ := List.getLast?_eq_some_iff.mp hlast
        rw [List.dropLast_concat]
        exact (List.perm_append_singleton last front).symm
    · have hb : (k == key) = false := beq_eq_false_iff_ne.mpr h
      have hkeep : erase ((k, v) :: o) key = (k, v) :: erase o key := by simp [erase, h]
      simp only [hb, Bool.false_eq_true, if_false, hkeep]
      exact (ih rest).cons (k, v)

theorem Distinct.eraseSwap (distinct : Distinct o) (key : String) :
    Distinct (eraseSwap o key) :=
  Distinct.perm (eraseSwap_perm distinct key).symm
    (distinct.sublist (List.Sublist.map Prod.fst List.filter_sublist))

theorem mem_eraseSwap (distinct : Distinct o) {e : String × Value} :
    e ∈ eraseSwap o key ↔ e ∈ o ∧ e.1 ≠ key := by
  rw [(eraseSwap_perm distinct key).mem_iff]
  simp [erase]

theorem get?_eraseSwap (distinct : Distinct o) (h : k ≠ key) :
    get? (eraseSwap o key) k = get? o k := by
  apply Option.ext
  intro v
  rw [get?_eq_some (distinct.eraseSwap key), get?_eq_some distinct, mem_eraseSwap distinct]
  exact and_iff_left h

/-- The items of the list under a key; nothing, if no list stands there. -/
def items (o : Object) (key : String) : List Value :=
  match get? o key with
  | some (.array items) => items
  | _ => []

theorem items_eq {list : List Value} (h : get? o key = some (.array list)) :
    items o key = list := by
  simp only [items, h]

theorem items_eq_nil (h : get? o key = none) : items o key = [] := by
  simp only [items, h]

theorem get?_of_mem_items (h : v ∈ items o key) : get? o key = some (.array (items o key)) := by
  unfold items at h ⊢
  split at h
  · next list hlist => simp only [hlist]
  · cases h

end Object

inductive Value.WellKeyed : Value → Prop
  | null : WellKeyed .null
  | bool (b : Bool) : WellKeyed (.bool b)
  | number (n : Number) : WellKeyed (.number n)
  | string (s : String) : WellKeyed (.string s)
  | array {items : List Value} (inner : ∀ v ∈ items, WellKeyed v) : WellKeyed (.array items)
  | object {o : Object} (distinct : Object.Distinct o) (inner : ∀ e ∈ o, WellKeyed e.2) :
      WellKeyed (.object o)

namespace Value.WellKeyed

theorem distinct {o : Object} (h : WellKeyed (.object o)) : Object.Distinct o := by
  cases h with
  | object distinct _ => exact distinct

theorem entries {o : Object} (h : WellKeyed (.object o)) : ∀ e ∈ o, WellKeyed e.2 := by
  cases h with
  | object _ inner => exact inner

theorem of_mem {items : List Value} {v : Value} (h : WellKeyed (.array items)) (hv : v ∈ items) :
    WellKeyed v := by
  cases h with
  | array inner => exact inner v hv

theorem of_get? {o : Object} {key : String} {v : Value} (h : WellKeyed (.object o))
    (hv : Object.get? o key = some v) : WellKeyed v :=
  h.entries (key, v) (Object.mem_of_get? hv)

theorem of_mem_items {o : Object} {key : String} {v : Value} (h : WellKeyed (.object o))
    (hv : v ∈ Object.items o key) : WellKeyed v :=
  (h.of_get? (Object.get?_of_mem_items hv)).of_mem hv

theorem empty : WellKeyed (.object []) := .object List.nodup_nil nofun

theorem insert {o : Object} {key : String} {v : Value} (ho : WellKeyed (.object o))
    (hv : WellKeyed v) : WellKeyed (.object (Object.insert o key v)) := by
  cases ho with
  | object distinct inner =>
    refine .object (distinct.insert key v) fun e he => ?_
    rcases Object.mem_insert he with rfl | he
    · exact hv
    · exact inner e he

theorem concat {o : Object} {e : String × Value} (ho : WellKeyed (.object o))
    (fresh : e.1 ∉ Object.keys o) (he : WellKeyed e.2) : WellKeyed (.object (o ++ [e])) := by
  cases ho with
  | object distinct inner =>
    refine .object ?_ fun e' he' => ?_
    · rw [Object.Distinct, Object.keys, List.map_append]
      exact Object.nodup_concat distinct fresh
    · rcases List.mem_append.mp he' with he' | he'
      · exact inner e' he'
      · rw [List.mem_singleton.mp he']
        exact he

theorem eraseSwap {o : Object} (ho : WellKeyed (.object o)) (key : String) :
    WellKeyed (.object (Object.eraseSwap o key)) :=
  .object (ho.distinct.eraseSwap key) fun e he =>
    ho.entries e ((Object.mem_eraseSwap ho.distinct).mp he).1

end Value.WellKeyed

end SchemaForge.Json
