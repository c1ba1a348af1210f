/-! Maps from names, kept in the order of their names. `insert` replaces what a name stood for. -/

namespace SchemaForge

def NamesIncrease {α : Type} (entries : List (String × α)) : Prop :=
  (entries.map (·.1)).Pairwise (· < ·)

structure NameMap (α : Type) where
  entries : List (String × α)
  increasing : NamesIncrease entries

namespace NameMap

variable {α : Type}

def insertSorted (name : String) (a : α) : List (String × α) → List (String × α)
  | [] => [(name, a)]
  | (k, v) :: rest =>
    if name < k then (name, a) :: (k, v) :: rest
    else if name = k then (name, a) :: rest
    else (k, v) :: insertSorted name a rest

theorem mem_keys_insertSorted {name k : String} {a : α} {entries : List (String × α)}
    (h : k ∈ (insertSorted name a entries).map (·.1)) :
    k = name ∨ k ∈ entries.map (·.1) := by
  induction entries with
  | nil => simpa [insertSorted] using h
  | cons e rest ih =>
    obtain ⟨k', v⟩ := e
    simp only [insertSorted] at h
    split at h
    · simpa using h
    · split at h
      · simp only [List.map_cons, List.mem_cons] at h ⊢
        rcases h with h | h
        · exact .inl h
        · exact .inr (.inr h)
      · simp only [List.map_cons, List.mem_cons] at h ⊢
        rcases h with h | h
        · exact .inr (.inl h)
        · rcases ih h with h | h
          · exact .inl h
          · exact .inr (.inr h)

theorem insertSorted_increasing (name : String) (a : α) {entries : List (String × α)}
    (h : NamesIncrease entries) : NamesIncrease (insertSorted name a entries) := by
  induction entries with
  | nil => simp [insertSorted, NamesIncrease]
  | cons e rest ih =>
    obtain ⟨k, v⟩ := e
    simp only [NamesIncrease, List.map_cons, List.pairwise_cons] at h
    simp only [insertSorted]
    split
    case isTrue hlt =>
      simp only [NamesIncrease, List.map_cons, List.pairwise_cons, List.mem_cons]
      refine ⟨?_, h⟩
      rintro x (rfl | hx)
      · exact hlt
      · exact String.lt_trans hlt (h.1 x hx)
    case isFalse hlt =>
      split
      case isTrue heq =>
        subst heq
        simpa only [NamesIncrease, List.map_cons, List.pairwise_cons] using h
      case isFalse hne =>
        have hk : k < name := by
          rcases String.le_total name k with hle | hle
          · exact absurd (String.le_antisymm hle (String.not_lt.mp hlt)) hne
          · exact String.not_le.mp fun hle' => hne (String.le_antisymm hle' hle)
        simp only [NamesIncrease, List.map_cons, List.pairwise_cons]
        refine ⟨fun x hx => ?_, ih h.2⟩
        rcases mem_keys_insertSorted hx with rfl | hx
        · exact hk
        · exact h.1 x hx

def empty : NameMap α := ⟨[], List.Pairwise.nil⟩

instance : Inhabited (NameMap α) := ⟨empty⟩

def insert (m : NameMap α) (name : String) (a : α) : NameMap α :=
  ⟨insertSorted name a m.entries, insertSorted_increasing name a m.increasing⟩

def get? (m : NameMap α) (name : String) : Option α := m.entries.lookup name

def contains (m : NameMap α) (name : String) : Bool := m.entries.any (·.1 == name)

def names (m : NameMap α) : List String := m.entries.map (·.1)

theorem contains_iff {m : NameMap α} {name : String} :
    m.contains name = true ↔ name ∈ m.names := by
  simp [contains, names]

def size (m : NameMap α) : Nat := m.entries.length

def isEmpty (m : NameMap α) : Bool := m.entries.isEmpty

def ofList (entries : List (String × α)) : NameMap α :=
  entries.foldl (fun m e => m.insert e.1 e.2) empty

end NameMap

abbrev NameSet := NameMap Unit

def NameSet.ofNames (names : List String) : NameSet := NameMap.ofList (names.map (·, ()))

end SchemaForge
