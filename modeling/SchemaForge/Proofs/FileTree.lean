import SchemaForge.FileTree
import SchemaForge.Proofs.NameMap

/-! What a directory lists: by each name, what stands at the location that the name leads to from there. -/

namespace SchemaForge.FileTree

variable {t : FileTree} {directory l : Location} {name path : String}

theorem nameIn?_eq_some : nameIn? directory l = some name ↔ l = directory ++ [name] := by
  rcases List.eq_nil_or_concat l with rfl | ⟨front, last, rfl⟩
  · simp [nameIn?]
  · simp only [nameIn?, List.concat_eq_append, List.getLast?_concat, List.dropLast_concat]
    by_cases same : front = directory
    · simp [same]
    · simp [same]

theorem lookup_named {α : Type} (read : String → Option α) (names : List String) (name : String) :
    (names.filterMap fun n => (read n).map (n, ·)).lookup name =
      if name ∈ names then read name else none := by
  induction names with
  | nil => rfl
  | cons n names ih =>
    cases found : read n with
    | none =>
      rw [List.filterMap_cons_none (by rw [found]; rfl), ih]
      by_cases same : name = n
      · subst same
        simp [found]
      · simp [same]
    | some a =>
      rw [List.filterMap_cons_some (by rw [found]; rfl), NameMap.lookup_cons, ih]
      by_cases same : name = n
      · subst same
        simp [found]
      · simp [same]

theorem mem_names_of_at? {e : Entry} (h : t.at? (directory ++ [name]) = some e) :
    name ∈ t.nodes.filterMap fun e => nameIn? directory e.1 := by
  obtain ⟨node, found, -⟩ := Option.bind_eq_some_iff.mp h
  have stands : t.nodes.lookup (directory ++ [name]) = some node := by
    simpa [node?] using found
  obtain ⟨before, after, whole, -⟩ := List.lookup_eq_some_iff.mp stands
  rw [whole]
  exact List.mem_filterMap.mpr ⟨_, List.mem_append_right _ List.mem_cons_self, nameIn?_eq_some.mpr rfl⟩

theorem get?_children : (t.children directory).get? name = t.at? (directory ++ [name]) := by
  rw [children, NameMap.get?_ofList, ← List.filterMap_reverse, lookup_named]
  split
  · rfl
  · next unnamed =>
    cases stands : t.at? (directory ++ [name]) with
    | none => rfl
    | some e => exact absurd (List.mem_reverse.mpr (mem_names_of_at? stands)) unnamed

theorem listing_eq (leads : t.locate path = .ok l) : t.listing path = t.children l := by
  rw [listing, leads]

theorem entry?_eq (leads : t.locate path = .ok l) : t.entry? path = t.at? l := by
  unfold entry?
  rw [leads]

end SchemaForge.FileTree
