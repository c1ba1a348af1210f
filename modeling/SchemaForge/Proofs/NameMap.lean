import Mathlib.Data.List.Nodup
import SchemaForge.NameMap

/-! Looking names up. Giving one name something replaces what it stood for and leaves all others as they
are. -/

namespace SchemaForge

namespace NameMap

variable {α : Type} {m m' : NameMap α} {entries entries' : List (String × α)} {name key : String}
  {a : α}

theorem lookup_cons (e : String × α) (entries : List (String × α)) (key : String) :
    (e :: entries).lookup key = if key = e.1 then some e.2 else entries.lookup key := by
  obtain ⟨k, v⟩ := e
  by_cases h : key = k
  · subst h
    simp
  · have hb : (key == k) = false := beq_eq_false_iff_ne.mpr h
    simp only [List.lookup_cons, hb, h, if_false]

theorem lookup_insertSorted (name : String) (a : α) (entries : List (String × α)) (key : String) :
    (insertSorted name a entries).lookup key = if key = name then some a else entries.lookup key := by
  induction entries with
  | nil => exact lookup_cons (name, a) [] key
  | cons e rest ih =>
    obtain ⟨k, v⟩ := e
    simp only [insertSorted]
    split
    · rw [lookup_cons]
    · split
      · next heq =>
        subst heq
        simp only [lookup_cons]
        split <;> rfl
      · next hne =>
        simp only [lookup_cons, ih]
        by_cases h : key = k
        · have hother : key ≠ name := fun heq => hne (heq.symm.trans h)
          simp only [if_pos h, if_neg hother]
        · simp only [if_neg h]

theorem get?_insert (m : NameMap α) (name : String) (a : α) (key : String) :
    (m.insert name a).get? key = if key = name then some a else m.get? key :=
  lookup_insertSorted name a m.entries key

theorem mem_keys_insertSorted_iff : key ∈ (insertSorted name a entries).map (·.1) ↔
    key = name ∨ key ∈ entries.map (·.1) := by
  refine ⟨mem_keys_insertSorted, ?_⟩
  induction entries with
  | nil => simp [insertSorted]
  | cons e rest ih =>
    obtain ⟨k, v⟩ := e
    simp only [insertSorted]
    split
    · simp
    · split
      · next heq =>
        subst heq
        simp
      · simp only [List.map_cons, List.mem_cons]
        rintro (rfl | rfl | hrest)
        · exact .inr (ih (.inl rfl))
        · exact .inl rfl
        · exact .inr (ih (.inr hrest))

theorem mem_names_insert : key ∈ (m.insert name a).names ↔ key = name ∨ key ∈ m.names :=
  mem_keys_insertSorted_iff

theorem get?_of_isEmpty (h : m.isEmpty = true) (name : String) : m.get? name = none := by
  obtain ⟨entries, increasing⟩ := m
  obtain rfl : entries = [] := List.isEmpty_iff.mp h
  rfl

theorem lookup_eq_some (nodup : (entries.map (·.1)).Nodup) :
    entries.lookup name = some a ↔ (name, a) ∈ entries := by
  induction entries with
  | nil => simp
  | cons e rest ih =>
    obtain ⟨fresh, nodup⟩ := List.nodup_cons.mp nodup
    rw [lookup_cons, List.mem_cons]
    split
    · next h =>
      subst h
      have absent : (e.1, a) ∉ rest := fun h => fresh (List.mem_map.mpr ⟨_, h, rfl⟩)
      simp [absent, Prod.ext_iff, eq_comm]
    · next h => simp [ih nodup, Prod.ext_iff, h]

theorem names_nodup (m : NameMap α) : m.names.Nodup :=
  m.increasing.imp fun h => String.ne_of_lt h

theorem mem_entries_iff : (name, a) ∈ m.entries ↔ m.get? name = some a :=
  (lookup_eq_some (names_nodup m)).symm

theorem ext_get? (h : ∀ name, m.get? name = m'.get? name) : m = m' := by
  obtain ⟨entries, increasing⟩ := m
  obtain ⟨entries', increasing'⟩ := m'
  have nodup := names_nodup ⟨entries, increasing⟩
  have nodup' := names_nodup ⟨entries', increasing'⟩
  have perm : entries.Perm entries' := by
    rw [List.perm_ext_iff_of_nodup nodup.of_map nodup'.of_map]
    rintro ⟨name, a⟩
    rw [← lookup_eq_some nodup, ← lookup_eq_some nodup']
    exact iff_of_eq (congrArg (· = some a) (h name))
  have same : entries = entries' := List.Perm.eq_of_pairwise
    (fun a b _ _ hab hba => absurd (String.lt_trans hab hba) (String.lt_irrefl a.1))
    (List.pairwise_map.mp increasing) (List.pairwise_map.mp increasing') perm
  subst same
  rfl

def insertAll (m : NameMap α) (entries : List (String × α)) : NameMap α :=
  entries.foldl (fun m e => m.insert e.1 e.2) m

theorem insertAll_cons (m : NameMap α) (e : String × α) (entries : List (String × α)) :
    m.insertAll (e :: entries) = (m.insert e.1 e.2).insertAll entries := rfl

theorem get?_insertAll : (m.insertAll entries).get? name =
    (entries.reverse.lookup name).or (m.get? name) := by
  induction entries generalizing m with
  | nil => rfl
  | cons e entries ih =>
    rw [insertAll_cons, ih, get?_insert, List.reverse_cons, List.lookup_append, lookup_cons]
    cases entries.reverse.lookup name with
    | some b => rfl
    | none => by_cases same : name = e.1 <;> simp [same]

theorem get?_ofList : (ofList entries).get? name = entries.reverse.lookup name := by
  have all : ofList entries = empty.insertAll entries := rfl
  rw [all, get?_insertAll, get?_of_isEmpty rfl, Option.or_none]

theorem get?_insertAll_of_not_mem (h : name ∉ entries.map (·.1)) :
    (m.insertAll entries).get? name = m.get? name := by
  have absent : entries.reverse.lookup name = none := by
    refine List.lookup_eq_none_iff.mpr fun e he => bne_iff_ne.mpr ?_
    rintro rfl
    exact h (List.mem_map_of_mem (List.mem_reverse.mp he))
  rw [get?_insertAll, absent, Option.none_or]

theorem get?_insertAll_of_mem (nodup : (entries.map (·.1)).Nodup) (h : (name, a) ∈ entries) :
    (m.insertAll entries).get? name = some a := by
  have nodup : (entries.reverse.map (·.1)).Nodup := by
    rwa [List.map_reverse, List.nodup_reverse]
  rw [get?_insertAll, (lookup_eq_some nodup).mpr (List.mem_reverse.mpr h), Option.some_or]

theorem mem_names_insertAll :
    key ∈ (m.insertAll entries).names ↔ key ∈ entries.map (·.1) ∨ key ∈ m.names := by
  induction entries generalizing m with
  | nil => simp [insertAll]
  | cons e entries ih =>
    rw [insertAll_cons, ih, mem_names_insert, List.map_cons, List.mem_cons, or_left_comm, or_assoc]

theorem insertAll_perm (m : NameMap α) (perm : entries.Perm entries')
    (nodup : (entries.map (·.1)).Nodup) : m.insertAll entries = m.insertAll entries' := by
  have nodup' := (perm.map (·.1)).nodup_iff.mp nodup
  refine ext_get? fun name => ?_
  by_cases h : name ∈ entries.map (·.1)
  · obtain ⟨⟨name, a⟩, ha, rfl⟩ := List.mem_map.mp h
    rw [get?_insertAll_of_mem nodup ha, get?_insertAll_of_mem nodup' (perm.mem_iff.mp ha)]
  · rw [get?_insertAll_of_not_mem h,
      get?_insertAll_of_not_mem fun h' => h ((perm.map (·.1)).mem_iff.mpr h')]

end NameMap

theorem NameSet.mem_ofNames {names : List String} {name : String} :
    name ∈ (NameSet.ofNames names).names ↔ name ∈ names := by
  have hall : NameSet.ofNames names = NameMap.empty.insertAll (names.map (·, ())) := rfl
  have hnames : (names.map (·, ())).map (·.1) = names := by
    rw [List.map_map]
    exact List.map_id names
  rw [hall, NameMap.mem_names_insertAll, hnames]
  exact or_iff_left nofun

end SchemaForge
