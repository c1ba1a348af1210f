import SchemaForge.Proofs.Schema.Names
import SchemaForge.Schema.Registry

/-! The type graph of a schema: which names it defines, which names its members refer to, and what is
reported when the two do not agree. Data types may refer to one another in a circle. -/

namespace SchemaForge

/-- The names of the data types, in their order. -/
def Schema.names (s : Schema) : List String := s.dataTypes.map (·.name)

def Schema.Resolves (s : Schema) (predefined : NameSet) (name : String) : Prop :=
  name ∈ s.names ∨ name ∈ predefined.names

/-- No name stands for two data types, and every reference leads somewhere. -/
structure Schema.Consistent (s : Schema) (predefined : NameSet) : Prop where
  nodup : s.names.Nodup
  resolved : ∀ d ∈ s.dataTypes, ∀ name ∈ d.referencedTypes, s.Resolves predefined name

/-- The name at an index has stood at a smaller one. -/
def RepeatsAt (names : List String) (i : Nat) : Prop :=
  ∃ name, names[i]? = some name ∧ ∃ j < i, names[j]? = some name

/-- The reference of a data type, both given by their index, that leads nowhere. -/
def Schema.DanglesAt (s : Schema) (predefined : NameSet) (i j : Nat) : Prop :=
  ∃ d name, s.dataTypes[i]? = some d ∧ d.referencedTypes[j]? = some name ∧
    ¬ s.Resolves predefined name

theorem getElem?_length {α : Type} {before after : List α} {a : α} :
    (before ++ a :: after)[before.length]? = some a := by
  rw [List.getElem?_append_right (Nat.le_refl _), Nat.sub_self]
  rfl

theorem FirstRepeat.index {names : List String} {name : String} (h : FirstRepeat names name) :
    ∃ i, names[i]? = some name ∧ RepeatsAt names i ∧ ∀ k < i, ¬ RepeatsAt names k := by
  obtain ⟨before, after, rfl, nodup, hname⟩ := h
  refine ⟨before.length, getElem?_length, ⟨name, getElem?_length, ?_⟩, ?_⟩
  · obtain ⟨j, hj, heq⟩ := List.mem_iff_getElem.mp hname
    refine ⟨j, hj, ?_⟩
    rw [List.getElem?_append_left hj, List.getElem?_eq_getElem hj, heq]
  · rintro k hk ⟨n, hn, j, hj, heq⟩
    rw [List.getElem?_append_left hk] at hn
    rw [List.getElem?_append_left (Nat.lt_trans hj hk)] at heq
    have same : j = k := (List.getElem?_inj (Nat.lt_trans hj hk) nodup).mp (heq.trans hn.symm)
    exact absurd same (Nat.ne_of_lt hj)

namespace TypeRegistry

theorem build_eq (seen : List String) (ds : List DataType) :
    build seen ds =
      match DataType.firstRepeat? seen (ds.map (·.name)) with
      | some name => .error (.duplicateType name)
      | none => .ok (seen.reverse ++ ds.map (·.name)) := by
  induction ds generalizing seen with
  | nil => simp [build, DataType.firstRepeat?]
  | cons d rest ih =>
    rw [build, List.map_cons, DataType.firstRepeat?]
    split
    · rfl
    · rw [ih]
      cases DataType.firstRepeat? (d.name :: seen) (rest.map (·.name)) with
      | some name => rfl
      | none => simp

theorem ofDataTypes_of_nodup {ds : List DataType} (h : (ds.map (·.name)).Nodup) :
    ∃ r, ofDataTypes ds = .ok r ∧ r.names = ds.map (·.name) := by
  have hbuild : build [] ds = .ok (ds.map (·.name)) := by
    rw [build_eq, DataType.firstRepeat?_eq_none.mpr h]
    rfl
  unfold ofDataTypes
  split
  · next names hnames => exact ⟨_, rfl, Except.ok.inj (hnames.symm.trans hbuild)⟩
  · next e he => cases he.symm.trans hbuild

theorem ofDataTypes_of_firstRepeat {ds : List DataType} {name : String}
    (h : FirstRepeat (ds.map (·.name)) name) :
    ofDataTypes ds = .error (.duplicateType name) := by
  have hbuild : build [] ds = .error (.duplicateType name) := by
    rw [build_eq, DataType.firstRepeat?_eq_some.mpr h]
  unfold ofDataTypes
  split
  · next names hnames => cases hnames.symm.trans hbuild
  · next e he => rw [Except.error.inj (he.symm.trans hbuild)]

end TypeRegistry

namespace Schema

variable {s : Schema} {predefined : NameSet} {r : TypeRegistry}

theorem resolves_iff (hr : r.names = s.names) {name : String} :
    r.resolves predefined name = true ↔ s.Resolves predefined name := by
  simp only [TypeRegistry.resolves, TypeRegistry.contains, hr, Bool.or_eq_true,
    List.contains_eq_mem, decide_eq_true_eq, NameMap.contains_iff, Resolves]

theorem unresolved?_eq_none (hr : r.names = s.names) {d : DataType} :
    unresolved? r predefined d = none ↔ ∀ name ∈ d.referencedTypes, s.Resolves predefined name := by
  simp only [unresolved?, Option.map_eq_none_iff, List.find?_eq_none, Bool.not_eq_true',
    Bool.not_eq_false, resolves_iff hr]

theorem unresolved?_eq_some (hr : r.names = s.names) {d : DataType} {e : ValidationError} :
    unresolved? r predefined d = some e ↔ ∃ before name after,
      d.referencedTypes = before ++ name :: after ∧ (∀ n ∈ before, s.Resolves predefined n) ∧
        ¬ s.Resolves predefined name ∧ e = .undefinedType name d.name := by
  simp only [unresolved?, Option.map_eq_some_iff, List.find?_eq_some_iff_append, Bool.not_eq_true',
    ← Bool.not_eq_true, Bool.not_not, resolves_iff hr]
  constructor
  · rintro ⟨name, ⟨dangles, before, after, hrefs, resolved⟩, rfl⟩
    exact ⟨before, name, after, hrefs, resolved, dangles, rfl⟩
  · rintro ⟨before, name, after, hrefs, resolved, dangles, rfl⟩
    exact ⟨name, ⟨dangles, before, after, hrefs, resolved⟩, rfl⟩

theorem validate_of_nodup (predefined : NameSet) (nodup : s.names.Nodup) :
    ∃ r : TypeRegistry, r.names = s.names ∧ s.validate predefined =
      match s.dataTypes.findSome? (unresolved? r predefined) with
      | some e => .error e
      | none => .ok ⟨s⟩ := by
  obtain ⟨r, hr, hnames⟩ := TypeRegistry.ofDataTypes_of_nodup nodup
  refine ⟨r, hnames, ?_⟩
  rw [validate, hr]
  rfl

theorem validate_of_consistent (h : s.Consistent predefined) :
    s.validate predefined = .ok ⟨s⟩ := by
  obtain ⟨r, hr, heq⟩ := validate_of_nodup predefined h.nodup
  have hnone : s.dataTypes.findSome? (unresolved? r predefined) = none :=
    List.findSome?_eq_none_iff.mpr fun d hd => (unresolved?_eq_none hr).mpr (h.resolved d hd)
  rw [heq, hnone]

theorem validate_of_repeat (predefined : NameSet) (h : ¬ s.names.Nodup) :
    ∃ i name, s.names[i]? = some name ∧ RepeatsAt s.names i ∧ (∀ k < i, ¬ RepeatsAt s.names k) ∧
      s.validate predefined = .error (.duplicateType name) := by
  obtain ⟨name, hfirst⟩ := exists_firstRepeat h
  obtain ⟨i, hname, hrepeats, least⟩ := hfirst.index
  refine ⟨i, name, hname, hrepeats, least, ?_⟩
  rw [validate, TypeRegistry.ofDataTypes_of_firstRepeat hfirst]
  rfl

theorem validate_of_dangling (nodup : s.names.Nodup) (h : ¬ s.Consistent predefined) :
    ∃ i j d name, s.dataTypes[i]? = some d ∧ d.referencedTypes[j]? = some name ∧
      s.DanglesAt predefined i j ∧
      (∀ i' j', i' < i ∨ i' = i ∧ j' < j → ¬ s.DanglesAt predefined i' j') ∧
      s.validate predefined = .error (.undefinedType name d.name) := by
  obtain ⟨r, hr, heq⟩ := validate_of_nodup predefined nodup
  cases hfind : s.dataTypes.findSome? (unresolved? r predefined) with
  | none =>
    refine absurd ⟨nodup, fun d hd => ?_⟩ h
    exact (unresolved?_eq_none hr).mp (List.findSome?_eq_none_iff.mp hfind d hd)
  | some e =>
    obtain ⟨earlier, d, later, hds, hd, hearlier⟩ := List.findSome?_eq_some_iff.mp hfind
    obtain ⟨before, name, after, hrefs, resolved, dangles, rfl⟩ := (unresolved?_eq_some hr).mp hd
    have hi : s.dataTypes[earlier.length]? = some d := by
      rw [hds]
      exact getElem?_length
    have hj : d.referencedTypes[before.length]? = some name := by
      rw [hrefs]
      exact getElem?_length
    refine ⟨earlier.length, before.length, d, name, hi, hj, ⟨d, name, hi, hj, dangles⟩, ?_, ?_⟩
    · rintro i' j' hlt ⟨d', name', hi', hj', dangles'⟩
      rcases hlt with hlt | ⟨rfl, hlt⟩
      · rw [hds, List.getElem?_append_left hlt] at hi'
        have hnone := hearlier d' (List.mem_of_getElem? hi')
        exact dangles' ((unresolved?_eq_none hr).mp hnone name' (List.mem_of_getElem? hj'))
      · cases hi.symm.trans hi'
        rw [hrefs, List.getElem?_append_left hlt] at hj'
        exact dangles' (resolved name' (List.mem_of_getElem? hj'))
    · rw [heq, hfind]

theorem validate_eq_ok {v : ValidatedSchema} :
    s.validate predefined = .ok v ↔ s.Consistent predefined ∧ v = ⟨s⟩ := by
  constructor
  · intro hv
    have h : s.Consistent predefined := by
      by_cases nodup : s.names.Nodup
      · by_cases h : s.Consistent predefined
        · exact h
        · obtain ⟨i, j, d, name, -, -, -, -, he⟩ := validate_of_dangling nodup h
          cases he.symm.trans hv
      · obtain ⟨i, name, -, -, -, he⟩ := validate_of_repeat predefined nodup
        cases he.symm.trans hv
    exact ⟨h, Except.ok.inj (hv.symm.trans (validate_of_consistent h))⟩
  · rintro ⟨h, rfl⟩
    exact validate_of_consistent h

/-- A schema is taken as it is just when it is consistent. A name that comes again is reported before
any reference, each by the first of its kind. -/
theorem validate_decides_consistency (s : Schema) (predefined : NameSet) :
    ((∃ v, s.validate predefined = .ok v) ↔ s.Consistent predefined) ∧
    (∀ v, s.validate predefined = .ok v → v.schema = s) ∧
    (¬ s.names.Nodup → ∃ i name, s.names[i]? = some name ∧ RepeatsAt s.names i ∧
      (∀ k < i, ¬ RepeatsAt s.names k) ∧
      s.validate predefined = .error (.duplicateType name)) ∧
    (s.names.Nodup → ¬ s.Consistent predefined → ∃ i j d name, s.dataTypes[i]? = some d ∧
      d.referencedTypes[j]? = some name ∧ s.DanglesAt predefined i j ∧
      (∀ i' j', i' < i ∨ i' = i ∧ j' < j → ¬ s.DanglesAt predefined i' j') ∧
      s.validate predefined = .error (.undefinedType name d.name)) := by
  refine ⟨?_, ?_, validate_of_repeat predefined, validate_of_dangling⟩
  · simp only [validate_eq_ok, exists_and_left, exists_eq, and_true]
  · intro v hv
    rw [(validate_eq_ok.mp hv).2]

end Schema

end SchemaForge
