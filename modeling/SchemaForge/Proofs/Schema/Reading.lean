import SchemaForge.Proofs.Schema.MemberOrder

/-! What the data types of an accepted document are read from. Each comes from one entry, in the order of
the entries; its fields and extras are those of the entry without its type, and sorting its members is
the last that happens to it. -/

namespace SchemaForge.Document

open Json (Object Value)
open Structure (ObjectOf EntryShape)

variable {file : String} {o : Object} {v : Value} {d : DataType}

inductive ReadFrom (o : Object) : DataType → Prop
  | cls {c : ClassType} (isClass : ¬ IsEnum (.object o))
      (fields : Decode.ClassFrom (Object.eraseSwap o "type") c) : ReadFrom o (.cls c)
  | enum {e : EnumType} (isEnum : IsEnum (.object o))
      (fields : Decode.EnumFrom (Object.eraseSwap o "type") e) : ReadFrom o (.enum e)

theorem readFrom_of_decodeEntry (distinct : Object.Distinct o) (shape : EntryShape o)
    (h : decodeEntry file (.object o) = .ok d) : ReadFrom o d := by
  have distinct := distinct.eraseSwap "type"
  by_cases safe : SafeName (nameOf o)
  · by_cases isEnum : IsEnum (.object o)
    · rw [decodeEntry_enum safe (by rw [kindOf_eq shape, if_pos isEnum])] at h
      split at h
      · next e he =>
        split at h
        · cases h
          obtain ⟨_, ⟨⟩, fields⟩ := Decode.enumFrom_of_ok he
          exact .enum isEnum (fields distinct)
        · cases h
      · cases h
    · rw [decodeEntry_class safe (by rw [kindOf_eq shape, if_neg isEnum])] at h
      split at h
      · next c hc =>
        cases h
        obtain ⟨_, ⟨⟩, fields⟩ := Decode.classFrom_of_ok hc
        exact .cls isEnum (fields distinct)
      · cases h
  · have refused : decodeEntry file (.object o) = _ := decodeEntry_unsafe safe
    cases refused.symm.trans h

theorem readFrom_of_entry {alphabetize : Bool} (hkeys : v.WellKeyed) (shape : ObjectOf EntryShape v)
    (h : entry alphabetize file v = .ok d) :
    ∃ o d₀, v = .object o ∧ ReadFrom o d₀ ∧ d₀.memberNames.Nodup ∧ d = d₀.ordered alphabetize := by
  obtain ⟨o, rfl, shape⟩ := shape
  obtain ⟨d₀, hd₀, h⟩ := Outcome.bind_eq_ok.mp h
  split at h
  · cases h
  · next unique =>
    refine ⟨o, d₀, rfl, readFrom_of_decodeEntry hkeys.distinct shape hd₀,
      DataType.duplicateMember?_eq_none.mp unique, ?_⟩
    cases h
    rfl

def ReadsAs (alphabetize : Bool) (v : Value) (d : DataType) : Prop :=
  ∃ o d₀, v = .object o ∧ (Value.object o).WellKeyed ∧ ReadFrom o d₀ ∧ d₀.memberNames.Nodup ∧
    d = d₀.ordered alphabetize

theorem ofValue_readsAs {alphabetize : Bool} {s : Schema} (hkeys : v.WellKeyed)
    (h : ofValue alphabetize file v = .ok s) :
    ∃ o, v = .object o ∧ s.version = versionOf o ∧
      List.Forall₂ (ReadsAs alphabetize) (itemsAt "dataTypes" v) s.dataTypes := by
  obtain ⟨good, -⟩ := (ofValue_accepts_iff alphabetize file hkeys).mp ⟨s, h⟩
  obtain ⟨o, rfl, -⟩ := Structure.violations_eq_nil.mp good
  refine ⟨o, rfl, ?_⟩
  unfold ofValue at h
  simp only [good, List.isEmpty_nil, if_true] at h
  obtain ⟨dataTypes, hentries, h⟩ := Outcome.bind_eq_ok.mp h
  cases h
  refine ⟨rfl, Outcome.forall₂_of_mem (Outcome.mapM_eq_ok.mp hentries) fun x hx d hd => ?_⟩
  have keyed := wellKeyed_of_mem hkeys hx
  obtain ⟨p, d₀, rfl, readFrom⟩ := readFrom_of_entry keyed (entryShape_of_mem good hx) hd
  exact ⟨p, d₀, rfl, keyed, readFrom⟩

end SchemaForge.Document
