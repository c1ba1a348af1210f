import SchemaForge.Generate.Artifact
import SchemaForge.Proofs.FilePath

/-! What stands behind the name of a data type in the name of its artifact: nothing, or one dot and an
extension. A configured extension is never empty and starts with no dot. One that is implied by the name of
the template holds no dot at all, but it is empty where that name ends in a dot. -/

namespace SchemaForge.Artifact

/-- An extension that can stand behind a dot. -/
structure Telling (extension : String) : Prop where
  nonempty : extension ≠ ""
  undotted : extension.toList.head? ≠ some '.'

theorem not_telling_empty : ¬ Telling "" := fun h => h.nonempty rfl

/-- Where an extension comes from: it is what is configured without the dots in front, or else what the file
name of the template, without its suffix, has behind its last dot. -/
inductive Derived : Option String → String → String → Prop
  | configured {text template extension : String} {dots : List Char} (telling : Telling extension)
      (all : ∀ c ∈ dots, c = '.') (whole : text.toList = dots ++ extension.toList) :
      Derived (some text) template extension
  | implied {template stem extension : String} (named : stem ≠ "") (undotted : '.' ∉ extension.toList)
      (whole : FilePath.fileName? (dropTemplateSuffix template) = some (stem ++ "." ++ extension)) :
      Derived none template extension

/-- Nothing is configured, and the file name of the template, without its suffix, ends in a dot. -/
def Dangling (configured : Option String) (template : String) : Prop :=
  configured = none ∧ ∃ stem, FilePath.fileName? (dropTemplateSuffix template) = some (stem ++ ".")

section Sources

variable {text template extension : String} {configured : Option String}

theorem configuredExtension?_append {dots cs : List Char} (all : ∀ c ∈ dots, c = '.')
    (undotted : cs.head? ≠ some '.') (whole : text.toList = dots ++ cs) :
    configuredExtension? text = if cs = [] then none else some (String.ofList cs) := by
  have skipped : ∀ c ∈ dots, (c == '.') = true := fun c hc => beq_iff_eq.mpr (all c hc)
  rw [configuredExtension?, whole, List.dropWhile_append_of_pos skipped]
  cases cs with
  | nil => rfl
  | cons c rest =>
    have other : (c == '.') = false := beq_eq_false_iff_ne.mpr (by simpa using undotted)
    rw [List.dropWhile_cons_of_neg (by simp [other])]
    rfl

theorem exists_leadingDots (cs : List Char) :
    ∃ dots rest, cs = dots ++ rest ∧ (∀ c ∈ dots, c = '.') ∧ rest.head? ≠ some '.' := by
  induction cs with
  | nil => exact ⟨[], [], rfl, nofun, nofun⟩
  | cons c cs ih =>
    by_cases dot : c = '.'
    · obtain ⟨dots, rest, rfl, all, stops⟩ := ih
      exact ⟨c :: dots, rest, rfl, List.forall_mem_cons.mpr ⟨dot, all⟩, stops⟩
    · exact ⟨[], c :: cs, rfl, nofun, by simpa using dot⟩

theorem configuredExtension?_eq_some : configuredExtension? text = some extension ↔
    Derived (some text) template extension := by
  constructor
  · intro h
    obtain ⟨dots, rest, whole, all, stops⟩ := exists_leadingDots text.toList
    rw [configuredExtension?_append all stops whole] at h
    split at h
    · cases h
    · next left =>
      cases h
      refine .configured ⟨?_, ?_⟩ all (by rwa [String.toList_ofList])
      · rwa [ne_eq, String.ofList_eq_empty_iff]
      · rwa [String.toList_ofList]
  · rintro (⟨telling, all, whole⟩ | _)
    rw [configuredExtension?_append all telling.undotted whole,
      if_neg (mt String.toList_eq_nil_iff.mp telling.nonempty), String.ofList_toList]

theorem impliedExtension?_eq_some : impliedExtension? template = some extension ↔
    Derived none template extension := by
  rw [impliedExtension?, FilePath.extension?, Option.bind_eq_some_iff]
  constructor
  · rintro ⟨name, file, h⟩
    obtain ⟨-, stem, named, rfl, undotted⟩ := FilePath.nameExtension?_eq_some.mp h
    exact .implied named undotted file
  · rintro (_ | ⟨named, undotted, file⟩)
    refine ⟨_, file, FilePath.nameExtension?_eq_some.mpr ⟨?_, _, named, rfl, undotted⟩⟩
    rintro above
    exact FilePath.fileName?_ne_above (above ▸ file)

theorem extension?_eq_some :
    extension? configured template = some extension ↔ Derived configured template extension := by
  cases configured with
  | some text => exact configuredExtension?_eq_some
  | none => exact impliedExtension?_eq_some

theorem Derived.undotted (h : Derived configured template extension) :
    extension.toList.head? ≠ some '.' := by
  cases h with
  | configured telling => exact telling.undotted
  | implied _ undotted => exact fun first => undotted (List.mem_of_head? first)

theorem derived_empty_iff : Derived configured template "" ↔ Dangling configured template := by
  constructor
  · rintro (⟨telling, -, -⟩ | ⟨-, -, file⟩)
    · exact absurd telling not_telling_empty
    · exact ⟨rfl, _, by simpa using file⟩
  · rintro ⟨rfl, stem, file⟩
    refine .implied ?_ (by simp) (by simpa using file)
    rintro rfl
    exact FilePath.fileName?_ne_here file

end Sources

theorem name_none (dataType : String) : name dataType none = dataType := rfl

theorem name_some (dataType extension : String) :
    name dataType (some extension) = dataType ++ "." ++ extension := rfl

/-- The name of an artifact is that of its data type, or that and a dot and an extension that can stand
there, unless nothing is configured and the name of the template ends in a dot. -/
theorem extension?_telling_iff (configured : Option String) (template : String) :
    (∀ ext, extension? configured template = some ext ↔ Derived configured template ext) ∧
      (∀ ext ∈ extension? configured template, ext.toList.head? ≠ some '.') ∧
      (extension? configured template = some "" ↔ Dangling configured template) ∧
      ∀ dataType, (name dataType (extension? configured template) = dataType ∨
        ∃ ext, Telling ext ∧
          name dataType (extension? configured template) = dataType ++ "." ++ ext) ↔
        ¬ Dangling configured template := by
  refine ⟨fun ext => extension?_eq_some, fun ext h => (extension?_eq_some.mp h).undotted,
    extension?_eq_some.trans derived_empty_iff, fun dataType => ?_⟩
  rw [← derived_empty_iff, ← extension?_eq_some]
  cases h : extension? configured template with
  | none => simp [name_none]
  | some ext =>
    have undotted := (extension?_eq_some.mp h).undotted
    rw [Option.some.injEq]
    constructor
    · rintro (bare | ⟨e, telling, whole⟩) rfl
      · simp [name_some, ← String.toList_inj] at bare
      · simp only [name_some, ← String.toList_inj, String.toList_append] at whole
        have same : "".toList = e.toList := List.append_cancel_left whole
        exact telling.nonempty (String.toList_inj.mp same).symm
    · intro nonempty
      exact .inr ⟨ext, ⟨nonempty, undotted⟩, rfl⟩

/-- A template's name with a dot at its end leaves an empty extension, with and without its suffix. -/
theorem dangling_dot_leaves_empty :
    extension? none "model." = some "" ∧ extension? none "model..tera" = some "" ∧
      name "Point" (extension? none "model.") = "Point." ∧ ¬ Telling "" := by
  exact ⟨by decide, by decide, by decide, not_telling_empty⟩

end SchemaForge.Artifact
