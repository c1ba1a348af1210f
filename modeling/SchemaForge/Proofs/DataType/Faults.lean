import SchemaForge.Proofs.DataType.Fields
import SchemaForge.Proofs.Schema.Shape

/-! What still fails to decode once the structure of a document has been found good. The fields stand
where they must and hold what they must, so that only a text that is no type expression is left; it is
the first such text that is reported. -/

namespace SchemaForge.Decode

open Json (Object Value)
open Outcome (At bind_eq_ok bind_eq_error exists_of_foldlM_eq_error mapM_eq_error mapM_eq_ok)
open Structure (ListOf ObjectOf PropertyShape EnumValueShape ClassShape EnumShape Named)

variable {o : Object} {e : DecodeError}

def textAt (key : String) (v : Value) : Option String := (v.get? key).bind Value.asString?

theorem textAt_eq_some {key s : String} :
    textAt key (.object o) = some s ↔ Object.get? o key = some (.string s) := by
  change (Object.get? o key).bind Value.asString? = some s ↔ _
  cases Object.get? o key with
  | none => simp
  | some v => cases v <;> simp [Value.asString?]

theorem string_ne_error {s : String} : string (.string s) ≠ .error e := nofun

theorem object_bind {α : Type} {expected : String} {rest : Object → Result α} :
    (object expected (.object o) >>= rest) = rest o := rfl

theorem get?_of_mem_key (distinct : Object.Distinct o) {entry : String × Value} (hmem : entry ∈ o)
    {key : String} (hkey : entry.1 = key) : Object.get? o key = some entry.2 :=
  hkey ▸ (Object.get?_eq_some distinct).mpr hmem

theorem text_of_mem (distinct : Object.Distinct o) {entry : String × Value} (hmem : entry ∈ o)
    {key s : String} (hkey : entry.1 = key) (hs : Object.get? o key = some (.string s)) :
    entry.2 = .string s :=
  Option.some.inj ((get?_of_mem_key distinct hmem hkey).symm.trans hs)

theorem property_fault (distinct : Object.Distinct o) (shape : PropertyShape o)
    (h : property (.object o) = .error e) :
    ∃ s c, textAt "dataType" (.object o) = some s ∧ TypeExpr.parse s = .error c ∧
      e = .typeExpr c := by
  obtain ⟨n, hn, -⟩ := shape.name
  obtain ⟨s, hs⟩ := shape.dataType
  rw [property, object_bind] at h
  rcases bind_eq_error.mp h with h | ⟨f, hf, h⟩
  · obtain ⟨entry, hmem, f, hf⟩ := exists_of_foldlM_eq_error h
    rcases PropertyFields.step_eq_error hf with ⟨hk, hf⟩ | ⟨hk, hf⟩ | ⟨hk, hf⟩
    · rw [text_of_mem distinct hmem hk hn] at hf
      exact absurd hf string_ne_error
    · rw [text_of_mem distinct hmem hk hs] at hf
      obtain ⟨c, hc, he⟩ := typeExpr_string_eq_error.mp hf
      exact ⟨s, c, textAt_eq_some.mpr hs, hc, he⟩
    · obtain ⟨d, hd⟩ := shape.description _ (get?_of_mem_key distinct hmem hk)
      rw [hd] at hf
      cases hf
  · obtain ⟨name, hread, hname⟩ := PropertyFields.sets_name.of_get? distinct hn hf
    obtain ⟨t, htype, hdataType⟩ := PropertyFields.sets_dataType.of_get? distinct hs hf
    simp only [hname, hdataType, required, bind, Except.bind, pure, Except.pure] at h
    cases h

theorem enumValue_total (distinct : Object.Distinct o) (shape : EnumValueShape o) :
    ∃ x, enumValue (.object o) = .ok x := by
  obtain ⟨n, hn, -⟩ := shape.name
  obtain ⟨v, hv, hliteral⟩ := shape.value
  cases h : enumValue (.object o) with
  | ok x => exact ⟨x, rfl⟩
  | error e =>
    exfalso
    rw [enumValue, object_bind] at h
    rcases bind_eq_error.mp h with h | ⟨f, hf, h⟩
    · obtain ⟨entry, hmem, f, hf⟩ := exists_of_foldlM_eq_error h
      rcases EnumValueFields.step_eq_error hf with ⟨hk, hf⟩ | ⟨hk, hf⟩
      · rw [text_of_mem distinct hmem hk hn] at hf
        exact absurd hf string_ne_error
      · cases (get?_of_mem_key distinct hmem hk).symm.trans hv
        rcases hliteral with ⟨b, hb⟩ | ⟨m, hm⟩ | ⟨s, hs⟩
        · rw [hb] at hf
          cases hf
        · rw [hm] at hf
          cases hf
        · rw [hs] at hf
          cases hf
    · obtain ⟨name, -, hname⟩ := EnumValueFields.sets_name.of_get? distinct hn hf
      obtain ⟨value, -, hvalue⟩ := EnumValueFields.sets_value.of_get? distinct hv hf
      simp only [hname, hvalue, required, bind, Except.bind, pure, Except.pure] at h
      cases h

theorem class_fault (distinct : Object.Distinct o) (named : Named o) (shape : ClassShape o)
    (h : classType (.object o) = .error e) :
    (Object.items o "properties").mapM property = .error e := by
  obtain ⟨n, hn, -⟩ := named
  rw [classType, object_bind] at h
  rcases bind_eq_error.mp h with h | ⟨f, hf, h⟩
  · obtain ⟨entry, hmem, f, hf⟩ := exists_of_foldlM_eq_error h
    rcases ClassFields.step_eq_error hf with ⟨hk, hf⟩ | ⟨hk, hf⟩
    · rw [text_of_mem distinct hmem hk hn] at hf
      exact absurd hf string_ne_error
    · have hget := get?_of_mem_key distinct hmem hk
      obtain ⟨items, hitems, -⟩ := shape.properties _ hget
      rw [hitems] at hf hget
      rw [Object.items_eq hget]
      exact hf
  · obtain ⟨name, -, hname⟩ := ClassFields.sets_name.of_get? distinct hn hf
    simp only [hname, required, bind, Except.bind, pure, Except.pure] at h
    cases h

theorem enum_fault (hkeys : (Value.object o).WellKeyed) (named : Named o) (shape : EnumShape o)
    (h : enumType (.object o) = .error e) :
    ∃ s c, textAt "dataType" (.object o) = some s ∧ TypeExpr.parse s = .error c ∧
      e = .typeExpr c := by
  have distinct := hkeys.distinct
  obtain ⟨n, hn, -⟩ := named
  obtain ⟨s, hs⟩ := shape.dataType
  obtain ⟨w, hw, items, rfl, hitems⟩ := shape.values
  rw [enumType, object_bind] at h
  rcases bind_eq_error.mp h with h | ⟨f, hf, h⟩
  · obtain ⟨entry, hmem, f, hf⟩ := exists_of_foldlM_eq_error h
    rcases EnumFields.step_eq_error hf with ⟨hk, hf⟩ | ⟨hk, hf⟩ | ⟨hk, hf⟩
    · rw [text_of_mem distinct hmem hk hn] at hf
      exact absurd hf string_ne_error
    · rw [text_of_mem distinct hmem hk hs] at hf
      obtain ⟨c, hc, he⟩ := typeExpr_string_eq_error.mp hf
      exact ⟨s, c, textAt_eq_some.mpr hs, hc, he⟩
    -- The values of an enum have no types of their own: all of them decode.
    · rw [Option.some.inj ((get?_of_mem_key distinct hmem hk).symm.trans hw)] at hf
      have hall : ∀ v ∈ items, ∃ x, enumValue v = .ok x := by
        intro v hv
        obtain ⟨o', rfl, hshape⟩ := hitems v hv
        exact enumValue_total ((hkeys.of_get? hw).of_mem hv).distinct hshape
      obtain ⟨out, hout⟩ := Outcome.exists_mapM_eq_ok.mpr hall
      cases hf.symm.trans hout
  · obtain ⟨name, -, hname⟩ := EnumFields.sets_name.of_get? distinct hn hf
    obtain ⟨t, -, htype⟩ := EnumFields.sets_dataType.of_get? distinct hs hf
    obtain ⟨values, -, hvalues⟩ := EnumFields.sets_values.of_get? distinct hw hf
    simp only [hname, htype, hvalues, required, bind, Except.bind, pure, Except.pure] at h
    cases h

end SchemaForge.Decode
