import SchemaForge.Schema.Document

/-! Names: which of them can stand for a file, and which one of a list is the first to come again. -/

namespace SchemaForge

/-- A name that is no path: no separator, no NUL, and nothing that leads to the directory above. -/
structure SafeName (name : String) : Prop where
  marks : ∀ c ∈ name.toList, c ≠ '/' ∧ c ≠ '\\' ∧ c ≠ '\x00'
  dots : ¬ ['.', '.'] <:+: name.toList

namespace Document

theorem hasDoubleDot_iff {cs : List Char} : hasDoubleDot cs = true ↔ ['.', '.'] <:+: cs := by
  induction cs using hasDoubleDot.induct with
  | case1 rest =>
    simp only [hasDoubleDot, true_iff]
    exact ⟨[], rest, rfl⟩
  | case2 c rest other ih =>
    have starts : ¬ ['.', '.'] <+: c :: rest := by
      rintro ⟨t, ht⟩
      obtain ⟨rfl, rfl⟩ := List.cons.inj ht
      exact other t rfl rfl
    rw [List.infix_cons_iff, ← ih, hasDoubleDot]
    · simp only [starts, false_or]
    · exact other
  | case3 => simp [hasDoubleDot]

theorem fileNameSafe_iff {name : String} : fileNameSafe name = true ↔ SafeName name := by
  simp only [fileNameSafe, Bool.and_eq_true, Bool.not_eq_true', ← Bool.not_eq_true,
    hasDoubleDot_iff, List.any_eq_true, Bool.or_eq_true, beq_iff_eq, not_exists, not_and, not_or]
  constructor
  · rintro ⟨marks, dots⟩
    exact ⟨fun c hc => ⟨(marks c hc).1.1, (marks c hc).1.2, (marks c hc).2⟩, dots⟩
  · rintro ⟨marks, dots⟩
    exact ⟨fun c hc => ⟨⟨(marks c hc).1, (marks c hc).2.1⟩, (marks c hc).2.2⟩, dots⟩

end Document

def FirstRepeat (names : List String) (name : String) : Prop :=
  ∃ before after, names = before ++ name :: after ∧ before.Nodup ∧ name ∈ before

namespace DataType

variable {seen names : List String} {name : String}

theorem firstRepeat?_cons {rest : List String} :
    firstRepeat? seen (name :: rest) =
      if name ∈ seen then some name else firstRepeat? (name :: seen) rest := by
  simp [firstRepeat?]

/-- The names seen are those passed, the last one first: passing one on changes neither side. -/
theorem firstRepeat?_eq_none_of_seen (hseen : seen.Nodup) :
    firstRepeat? seen names = none ↔ (names.reverse ++ seen).Nodup := by
  induction names generalizing seen with
  | nil => simpa [firstRepeat?] using hseen
  | cons first rest ih =>
    rw [firstRepeat?_cons, List.reverse_cons, List.append_assoc, List.singleton_append]
    split
    · next h =>
      refine ⟨nofun, fun nodup => ?_⟩
      exact absurd h (List.nodup_cons.mp (List.nodup_append.mp nodup).2.1).1
    · next h => exact ih (List.nodup_cons.mpr ⟨h, hseen⟩)

theorem firstRepeat?_eq_some_of_seen (hseen : seen.Nodup) : firstRepeat? seen names = some name ↔
    ∃ before after, names = before ++ name :: after ∧ (before.reverse ++ seen).Nodup ∧
      name ∈ before.reverse ++ seen := by
  induction names generalizing seen with
  | nil => simp [firstRepeat?]
  | cons first rest ih =>
    have shift (before : List String) :
        (first :: before).reverse ++ seen = before.reverse ++ (first :: seen) := by
      rw [List.reverse_cons, List.append_assoc, List.singleton_append]
    rw [firstRepeat?_cons]
    split
    · next h =>
      constructor
      · rintro ⟨⟩
        exact ⟨[], rest, rfl, hseen, h⟩
      · rintro ⟨before, after, hnames, nodup, -⟩
        cases before with
        | nil => rw [(List.cons.inj hnames).1]
        | cons n before =>
          cases hnames
          rw [shift] at nodup
          exact absurd h (List.nodup_cons.mp (List.nodup_append.mp nodup).2.1).1
    · next h =>
      rw [ih (List.nodup_cons.mpr ⟨h, hseen⟩)]
      constructor
      · rintro ⟨before, after, rfl, nodup, hname⟩
        rw [← shift] at nodup hname
        exact ⟨first :: before, after, rfl, nodup, hname⟩
      · rintro ⟨before, after, hnames, nodup, hname⟩
        cases before with
        | nil =>
          cases hnames
          exact absurd hname h
        | cons n before =>
          cases hnames
          rw [shift] at nodup hname
          exact ⟨before, after, rfl, nodup, hname⟩

theorem firstRepeat?_eq_none : firstRepeat? [] names = none ↔ names.Nodup := by
  rw [firstRepeat?_eq_none_of_seen List.nodup_nil, List.append_nil,
    (List.reverse_perm names).nodup_iff]

theorem firstRepeat?_eq_some : firstRepeat? [] names = some name ↔ FirstRepeat names name := by
  simp only [firstRepeat?_eq_some_of_seen List.nodup_nil, List.append_nil,
    (List.reverse_perm _).nodup_iff, List.mem_reverse, FirstRepeat]

theorem duplicateMember?_eq_none {d : DataType} :
    d.duplicateMember? = none ↔ d.memberNames.Nodup := firstRepeat?_eq_none

theorem duplicateMember?_eq_some {d : DataType} :
    d.duplicateMember? = some name ↔ FirstRepeat d.memberNames name := firstRepeat?_eq_some

end DataType

theorem FirstRepeat.unique {names : List String} {name name' : String} (h : FirstRepeat names name)
    (h' : FirstRepeat names name') : name = name' := by
  have hsome := DataType.firstRepeat?_eq_some.mpr h
  exact Option.some.inj (hsome.symm.trans (DataType.firstRepeat?_eq_some.mpr h'))

theorem exists_firstRepeat {names : List String} (h : ¬ names.Nodup) :
    ∃ name, FirstRepeat names name := by
  cases hfirst : DataType.firstRepeat? [] names with
  | none => exact absurd (DataType.firstRepeat?_eq_none.mp hfirst) h
  | some name => exact ⟨name, DataType.firstRepeat?_eq_some.mp hfirst⟩

end SchemaForge
