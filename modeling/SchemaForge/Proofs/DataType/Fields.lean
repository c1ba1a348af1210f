import SchemaForge.DataType.Decode
import SchemaForge.Proofs.Json.Keys
import SchemaForge.Proofs.Outcome

/-! What the fields of properties, enum values, classes and enums are read from. The entries of an
object are taken in one after the other; when no key stands twice, a field comes from the value under
its key, and the extras are the other entries in their order. -/

namespace SchemaForge.Decode

open Json (Object Value)
open Outcome (bind_eq_ok bind_eq_error map_eq_ok map_eq_error pure_eq_ok foldlM_cons_eq_ok)

theorem string_eq_ok {v : Value} {s : String} : string v = .ok s ↔ v = .string s := by
  cases v <;> simp [string]

theorem typeExpr_eq_ok {v : Value} {t : TypeExpr} :
    typeExpr v = .ok t ↔ ∃ s, v = .string s ∧ TypeExpr.parse s = .ok t := by
  unfold typeExpr
  simp only [bind_eq_ok, string_eq_ok]
  refine exists_congr fun s => and_congr_right fun _ => ?_
  cases TypeExpr.parse s <;> simp

theorem textOrNull_eq_ok_some {v : Value} {d : String} :
    textOrNull v = .ok (some d) ↔ v = .string d := by
  cases v <;> simp [textOrNull, string, Except.map]

theorem typeExpr_string_eq_error {s : String} {e : DecodeError} :
    typeExpr (.string s) = .error e ↔ ∃ c, TypeExpr.parse s = .error c ∧ e = .typeExpr c := by
  simp only [typeExpr, string, bind, Except.bind]
  cases TypeExpr.parse s with
  | ok t => simp
  | error c => simp [eq_comm]

theorem list_eq_ok {α : Type} {item : Value → Result α} {v : Value} {l : List α} :
    list item v = .ok l ↔ ∃ items, v = .array items ∧ items.mapM item = .ok l := by
  cases v <;> simp [list]

theorem object_eq_ok {expected : String} {v : Value} {o : Object} :
    object expected v = .ok o ↔ v = .object o := by
  cases v <;> simp [object]

theorem required_eq_ok {α : Type} {name : String} {a? : Option α} {a : α} :
    required name a? = .ok a ↔ a? = some a := by
  cases a? <;> simp [required]

section Entries

variable {F A : Type} {step : F → String × Value → Result F} {f f' : F} {o : Object}

/-- A field that the entries of one key set and that no other entry touches. -/
def Sets (step : F → String × Value → Result F) (key : String) (field : F → Option A)
    (read : Value → Result A) : Prop :=
  ∀ {f e f'}, step f e = .ok f' →
    if e.1 = key then ∃ a, read e.2 = .ok a ∧ field f' = some a else field f' = field f

theorem Sets.untouched {key : String} {field : F → Option A} {read : Value → Result A}
    (h : Sets step key field read) (absent : key ∉ Object.keys o)
    (hf : o.foldlM step f = .ok f') : field f' = field f := by
  induction o generalizing f with
  | nil => rw [pure_eq_ok.mp hf]
  | cons e o ih =>
    obtain ⟨g, hg, hf⟩ := foldlM_cons_eq_ok.mp hf
    have hkey : e.1 ≠ key := fun he => absent (he ▸ List.mem_cons_self)
    have hfield := h hg
    rw [if_neg hkey] at hfield
    rw [ih (fun hm => absent (List.mem_cons_of_mem _ hm)) hf, hfield]

theorem Sets.of_get? {key : String} {field : F → Option A} {read : Value → Result A}
    (h : Sets step key field read) (distinct : Object.Distinct o) {v : Value}
    (hv : Object.get? o key = some v) (hf : o.foldlM step f = .ok f') :
    ∃ a, read v = .ok a ∧ field f' = some a := by
  induction o generalizing f with
  | nil => cases hv
  | cons e o ih =>
    obtain ⟨fresh, rest⟩ := List.nodup_cons.mp distinct
    obtain ⟨g, hg, hf⟩ := foldlM_cons_eq_ok.mp hf
    rw [Object.get?_cons] at hv
    split at hv
    · next hkey =>
      have hfield := h hg
      rw [if_pos hkey.symm] at hfield
      obtain ⟨a, hread, hset⟩ := hfield
      have absent : key ∉ Object.keys o := hkey ▸ fresh
      rw [h.untouched absent hf, ← Option.some.inj hv]
      exact ⟨a, hread, hset⟩
    · exact ih rest hv hf

/-- Without the key the field is empty at the end, with it the field holds what the value reads as. -/
theorem Sets.eq_some {key : String} {field : F → Option A} {read : Value → Result A}
    (h : Sets step key field read) (distinct : Object.Distinct o) (empty : field f = none)
    (hf : o.foldlM step f = .ok f') {a : A} :
    field f' = some a ↔ ∃ v, Object.get? o key = some v ∧ read v = .ok a := by
  cases hv : Object.get? o key with
  | none =>
    rw [h.untouched (Object.get?_eq_none.mp hv) hf, empty]
    simp
  | some v =>
    obtain ⟨b, hread, hfield⟩ := h.of_get? distinct hv hf
    rw [hfield]
    simp [hread]

theorem extra_of_foldlM {extra : F → Object} {modeled : List String}
    (h : ∀ {f e f'}, step f e = .ok f' →
      extra f' = if e.1 ∈ modeled then extra f else extra f ++ [e])
    (hf : o.foldlM step f = .ok f') :
    extra f' = extra f ++ o.filter fun e => decide (e.1 ∉ modeled) := by
  induction o generalizing f with
  | nil => simp [pure_eq_ok.mp hf]
  | cons e o ih =>
    obtain ⟨g, hg, hf⟩ := foldlM_cons_eq_ok.mp hf
    rw [ih hf, h hg]
    by_cases he : e.1 ∈ modeled <;> simp [he]

end Entries

def propertyKeys : List String := ["name", "dataType", "description"]

structure PropertyFrom (o : Object) (p : Property) : Prop where
  name : Object.get? o "name" = some (.string p.name)
  dataType : ∃ s, Object.get? o "dataType" = some (.string s) ∧
    TypeExpr.parse s = .ok p.dataType
  description : ∀ d, p.description = some d ↔ Object.get? o "description" = some (.string d)
  extra : p.extra = o.filter fun e => decide (e.1 ∉ propertyKeys)

def PropertyFields.step (f : PropertyFields) (e : String × Value) : Result PropertyFields :=
  f.add e.1 e.2

theorem PropertyFields.step_eq_ok {f f' : PropertyFields} {e : String × Value}
    (h : f.step e = .ok f') :
    (e.1 = "name" ∧ ∃ s, string e.2 = .ok s ∧ f' = { f with name := some s }) ∨
    (e.1 = "dataType" ∧ ∃ t, typeExpr e.2 = .ok t ∧ f' = { f with dataType := some t }) ∨
    (e.1 = "description" ∧ ∃ d, textOrNull e.2 = .ok d ∧ f' = { f with description := some d }) ∨
    (e.1 ∉ propertyKeys ∧ f' = { f with extra := f.extra ++ [e] }) := by
  unfold step PropertyFields.add at h
  split at h
  · next hk => exact .inl ⟨hk, (map_eq_ok.mp h).imp fun s hs => ⟨hs.1, hs.2.symm⟩⟩
  · split at h
    · next hk => exact .inr (.inl ⟨hk, (map_eq_ok.mp h).imp fun t ht => ⟨ht.1, ht.2.symm⟩⟩)
    · split at h
      · next hk => exact .inr (.inr (.inl ⟨hk, (map_eq_ok.mp h).imp fun d hd => ⟨hd.1, hd.2.symm⟩⟩))
      · next hname hdataType hdescription =>
        refine .inr (.inr (.inr ⟨?_, (Except.ok.inj h).symm⟩))
        simp [propertyKeys, hname, hdataType, hdescription]

theorem PropertyFields.step_eq_error {f : PropertyFields} {e : String × Value} {c : DecodeError}
    (h : f.step e = .error c) :
    (e.1 = "name" ∧ string e.2 = .error c) ∨ (e.1 = "dataType" ∧ typeExpr e.2 = .error c) ∨
    (e.1 = "description" ∧ textOrNull e.2 = .error c) := by
  unfold step PropertyFields.add at h
  split at h
  · next hk => exact .inl ⟨hk, map_eq_error.mp h⟩
  · split at h
    · next hk => exact .inr (.inl ⟨hk, map_eq_error.mp h⟩)
    · split at h
      · next hk => exact .inr (.inr ⟨hk, map_eq_error.mp h⟩)
      · cases h

theorem PropertyFields.sets_name : Sets step "name" PropertyFields.name string := by
  intro f e f' h
  rcases step_eq_ok h with ⟨hk, s, hs, rfl⟩ | ⟨hk, t, -, rfl⟩ | ⟨hk, d, -, rfl⟩ | ⟨hk, rfl⟩ <;>
    simp_all [propertyKeys]

theorem PropertyFields.sets_dataType : Sets step "dataType" PropertyFields.dataType typeExpr := by
  intro f e f' h
  rcases step_eq_ok h with ⟨hk, s, -, rfl⟩ | ⟨hk, t, ht, rfl⟩ | ⟨hk, d, -, rfl⟩ | ⟨hk, rfl⟩ <;>
    simp_all [propertyKeys]

theorem PropertyFields.sets_description :
    Sets step "description" PropertyFields.description textOrNull := by
  intro f e f' h
  rcases step_eq_ok h with ⟨hk, s, -, rfl⟩ | ⟨hk, t, -, rfl⟩ | ⟨hk, d, hd, rfl⟩ | ⟨hk, rfl⟩ <;>
    simp_all [propertyKeys]

theorem PropertyFields.keeps_extra {f f' : PropertyFields} {e : String × Value}
    (h : f.step e = .ok f') :
    f'.extra = if e.1 ∈ propertyKeys then f.extra else f.extra ++ [e] := by
  rcases step_eq_ok h with ⟨hk, s, -, rfl⟩ | ⟨hk, t, -, rfl⟩ | ⟨hk, d, -, rfl⟩ | ⟨hk, rfl⟩ <;>
    simp [propertyKeys, hk]
  simpa [propertyKeys] using hk

theorem propertyFrom_of_ok {v : Value} {p : Property} (h : property v = .ok p) :
    ∃ o, v = .object o ∧ (Object.Distinct o → PropertyFrom o p) := by
  unfold property at h
  simp only [bind_eq_ok, object_eq_ok, required_eq_ok, pure_eq_ok] at h
  obtain ⟨o, ho, f, hf, name, hname, dataType, htype, rfl⟩ := h
  refine ⟨o, ho, fun distinct => ⟨?_, ?_, fun d => ?_, ?_⟩⟩
  · obtain ⟨w, hw, hs⟩ := (PropertyFields.sets_name.eq_some distinct rfl hf).mp hname
    rw [hw, string_eq_ok.mp hs]
  · obtain ⟨w, hw, ht⟩ := (PropertyFields.sets_dataType.eq_some distinct rfl hf).mp htype
    obtain ⟨s, rfl, hparse⟩ := typeExpr_eq_ok.mp ht
    exact ⟨s, hw, hparse⟩
  · have hread := PropertyFields.sets_description.eq_some distinct rfl hf (a := some d)
    have hflat : f.description.getD none = some d ↔ f.description = some (some d) := by
      cases f.description <;> simp
    simp only [hflat, hread, textOrNull_eq_ok_some, exists_eq_right]
  · exact extra_of_foldlM PropertyFields.keeps_extra hf

def enumValueKeys : List String := ["name", "value"]

structure EnumValueFrom (o : Object) (x : EnumValue) : Prop where
  name : Object.get? o "name" = some (.string x.name)
  value : ∃ v, Object.get? o "value" = some v ∧ literal v = .ok x.value
  extra : x.extra = o.filter fun e => decide (e.1 ∉ enumValueKeys)

def EnumValueFields.step (f : EnumValueFields) (e : String × Value) : Result EnumValueFields :=
  f.add e.1 e.2

theorem EnumValueFields.step_eq_ok {f f' : EnumValueFields} {e : String × Value}
    (h : f.step e = .ok f') :
    (e.1 = "name" ∧ ∃ s, string e.2 = .ok s ∧ f' = { f with name := some s }) ∨
    (e.1 = "value" ∧ ∃ s, literal e.2 = .ok s ∧ f' = { f with value := some s }) ∨
    (e.1 ∉ enumValueKeys ∧ f' = { f with extra := f.extra ++ [e] }) := by
  unfold step EnumValueFields.add at h
  split at h
  · next hk => exact .inl ⟨hk, (map_eq_ok.mp h).imp fun s hs => ⟨hs.1, hs.2.symm⟩⟩
  · split at h
    · next hk => exact .inr (.inl ⟨hk, (map_eq_ok.mp h).imp fun s hs => ⟨hs.1, hs.2.symm⟩⟩)
    · next hname hvalue =>
      refine .inr (.inr ⟨?_, (Except.ok.inj h).symm⟩)
      simp [enumValueKeys, hname, hvalue]

theorem EnumValueFields.step_eq_error {f : EnumValueFields} {e : String × Value} {c : DecodeError}
    (h : f.step e = .error c) :
    (e.1 = "name" ∧ string e.2 = .error c) ∨ (e.1 = "value" ∧ literal e.2 = .error c) := by
  unfold step EnumValueFields.add at h
  split at h
  · next hk => exact .inl ⟨hk, map_eq_error.mp h⟩
  · split at h
    · next hk => exact .inr ⟨hk, map_eq_error.mp h⟩
    · cases h

theorem EnumValueFields.sets_name : Sets step "name" EnumValueFields.name string := by
  intro f e f' h
  rcases step_eq_ok h with ⟨hk, s, hs, rfl⟩ | ⟨hk, s, -, rfl⟩ | ⟨hk, rfl⟩ <;>
    simp_all [enumValueKeys]

theorem EnumValueFields.sets_value : Sets step "value" EnumValueFields.value literal := by
  intro f e f' h
  rcases step_eq_ok h with ⟨hk, s, -, rfl⟩ | ⟨hk, s, hs, rfl⟩ | ⟨hk, rfl⟩ <;>
    simp_all [enumValueKeys]

theorem EnumValueFields.keeps_extra {f f' : EnumValueFields} {e : String × Value}
    (h : f.step e = .ok f') :
    f'.extra = if e.1 ∈ enumValueKeys then f.extra else f.extra ++ [e] := by
  rcases step_eq_ok h with ⟨hk, s, -, rfl⟩ | ⟨hk, s, -, rfl⟩ | ⟨hk, rfl⟩ <;>
    simp_all [enumValueKeys]

theorem enumValueFrom_of_ok {v : Value} {x : EnumValue} (h : enumValue v = .ok x) :
    ∃ o, v = .object o ∧ (Object.Distinct o → EnumValueFrom o x) := by
  unfold enumValue at h
  simp only [bind_eq_ok, object_eq_ok, required_eq_ok, pure_eq_ok] at h
  obtain ⟨o, ho, f, hf, name, hname, value, hvalue, rfl⟩ := h
  refine ⟨o, ho, fun distinct => ⟨?_, ?_, ?_⟩⟩
  · obtain ⟨w, hw, hs⟩ := (EnumValueFields.sets_name.eq_some distinct rfl hf).mp hname
    rw [hw, string_eq_ok.mp hs]
  · exact (EnumValueFields.sets_value.eq_some distinct rfl hf).mp hvalue
  · exact extra_of_foldlM EnumValueFields.keeps_extra hf

def classKeys : List String := ["name", "properties"]

structure ClassFrom (o : Object) (c : ClassType) : Prop where
  name : Object.get? o "name" = some (.string c.name)
  properties : List.Forall₂ (fun v p => property v = .ok p) (Object.items o "properties") c.properties
  extra : c.extra = o.filter fun e => decide (e.1 ∉ classKeys)

def ClassFields.step (f : ClassFields) (e : String × Value) : Result ClassFields := f.add e.1 e.2

theorem ClassFields.step_eq_ok {f f' : ClassFields} {e : String × Value} (h : f.step e = .ok f') :
    (e.1 = "name" ∧ ∃ s, string e.2 = .ok s ∧ f' = { f with name := some s }) ∨
    (e.1 = "properties" ∧ ∃ ps, list property e.2 = .ok ps ∧ f' = { f with properties := some ps }) ∨
    (e.1 ∉ classKeys ∧ f' = { f with extra := f.extra ++ [e] }) := by
  unfold step ClassFields.add at h
  split at h
  · next hk => exact .inl ⟨hk, (map_eq_ok.mp h).imp fun s hs => ⟨hs.1, hs.2.symm⟩⟩
  · split at h
    · next hk => exact .inr (.inl ⟨hk, (map_eq_ok.mp h).imp fun ps hps => ⟨hps.1, hps.2.symm⟩⟩)
    · next hname hproperties =>
      refine .inr (.inr ⟨?_, (Except.ok.inj h).symm⟩)
      simp [classKeys, hname, hproperties]

theorem ClassFields.step_eq_error {f : ClassFields} {e : String × Value} {c : DecodeError}
    (h : f.step e = .error c) :
    (e.1 = "name" ∧ string e.2 = .error c) ∨
    (e.1 = "properties" ∧ list property e.2 = .error c) := by
  unfold step ClassFields.add at h
  split at h
  · next hk => exact .inl ⟨hk, map_eq_error.mp h⟩
  · split at h
    · next hk => exact .inr ⟨hk, map_eq_error.mp h⟩
    · cases h

theorem ClassFields.sets_name : Sets step "name" ClassFields.name string := by
  intro f e f' h
  rcases step_eq_ok h with ⟨hk, s, hs, rfl⟩ | ⟨hk, ps, -, rfl⟩ | ⟨hk, rfl⟩ <;>
    simp_all [classKeys]

theorem ClassFields.sets_properties :
    Sets step "properties" ClassFields.properties (list property) := by
  intro f e f' h
  rcases step_eq_ok h with ⟨hk, s, -, rfl⟩ | ⟨hk, ps, hps, rfl⟩ | ⟨hk, rfl⟩ <;>
    simp_all [classKeys]

theorem ClassFields.keeps_extra {f f' : ClassFields} {e : String × Value} (h : f.step e = .ok f') :
    f'.extra = if e.1 ∈ classKeys then f.extra else f.extra ++ [e] := by
  rcases step_eq_ok h with ⟨hk, s, -, rfl⟩ | ⟨hk, ps, -, rfl⟩ | ⟨hk, rfl⟩ <;>
    simp_all [classKeys]

theorem classFrom_of_ok {v : Value} {c : ClassType} (h : classType v = .ok c) :
    ∃ o, v = .object o ∧ (Object.Distinct o → ClassFrom o c) := by
  unfold classType at h
  simp only [bind_eq_ok, object_eq_ok, required_eq_ok, pure_eq_ok] at h
  obtain ⟨o, ho, f, hf, name, hname, rfl⟩ := h
  refine ⟨o, ho, fun distinct => ⟨?_, ?_, ?_⟩⟩
  · obtain ⟨w, hw, hs⟩ := (ClassFields.sets_name.eq_some distinct rfl hf).mp hname
    rw [hw, string_eq_ok.mp hs]
  · cases hlist : Object.get? o "properties" with
    | none =>
      have absent := ClassFields.sets_properties.untouched (Object.get?_eq_none.mp hlist) hf
      rw [Object.items_eq_nil hlist, absent]
      exact .nil
    | some w =>
      obtain ⟨ps, hps, hfield⟩ := ClassFields.sets_properties.of_get? distinct hlist hf
      obtain ⟨items, rfl, hitems⟩ := list_eq_ok.mp hps
      rw [Object.items_eq hlist, hfield]
      exact Outcome.mapM_eq_ok.mp hitems
  · exact extra_of_foldlM ClassFields.keeps_extra hf

def enumKeys : List String := ["name", "dataType", "values"]

structure EnumFrom (o : Object) (x : EnumType) : Prop where
  name : Object.get? o "name" = some (.string x.name)
  dataType : ∃ s, Object.get? o "dataType" = some (.string s) ∧
    TypeExpr.parse s = .ok x.dataType
  values : List.Forall₂ (fun v y => enumValue v = .ok y) (Object.items o "values") x.values
  extra : x.extra = o.filter fun e => decide (e.1 ∉ enumKeys)

def EnumFields.step (f : EnumFields) (e : String × Value) : Result EnumFields := f.add e.1 e.2

theorem EnumFields.step_eq_ok {f f' : EnumFields} {e : String × Value} (h : f.step e = .ok f') :
    (e.1 = "name" ∧ ∃ s, string e.2 = .ok s ∧ f' = { f with name := some s }) ∨
    (e.1 = "dataType" ∧ ∃ t, typeExpr e.2 = .ok t ∧ f' = { f with dataType := some t }) ∨
    (e.1 = "values" ∧ ∃ vs, list enumValue e.2 = .ok vs ∧ f' = { f with values := some vs }) ∨
    (e.1 ∉ enumKeys ∧ f' = { f with extra := f.extra ++ [e] }) := by
  unfold step EnumFields.add at h
  split at h
  · next hk => exact .inl ⟨hk, (map_eq_ok.mp h).imp fun s hs => ⟨hs.1, hs.2.symm⟩⟩
  · split at h
    · next hk => exact .inr (.inl ⟨hk, (map_eq_ok.mp h).imp fun t ht => ⟨ht.1, ht.2.symm⟩⟩)
    · split at h
      · next hk =>
        exact .inr (.inr (.inl ⟨hk, (map_eq_ok.mp h).imp fun vs hvs => ⟨hvs.1, hvs.2.symm⟩⟩))
      · next hname hdataType hvalues =>
        refine .inr (.inr (.inr ⟨?_, (Except.ok.inj h).symm⟩))
        simp [enumKeys, hname, hdataType, hvalues]

theorem EnumFields.step_eq_error {f : EnumFields} {e : String × Value} {c : DecodeError}
    (h : f.step e = .error c) :
    (e.1 = "name" ∧ string e.2 = .error c) ∨ (e.1 = "dataType" ∧ typeExpr e.2 = .error c) ∨
    (e.1 = "values" ∧ list enumValue e.2 = .error c) := by
  unfold step EnumFields.add at h
  split at h
  · next hk => exact .inl ⟨hk, map_eq_error.mp h⟩
  · split at h
    · next hk => exact .inr (.inl ⟨hk, map_eq_error.mp h⟩)
    · split at h
      · next hk => exact .inr (.inr ⟨hk, map_eq_error.mp h⟩)
      · cases h

theorem EnumFields.sets_name : Sets step "name" EnumFields.name string := by
  intro f e f' h
  rcases step_eq_ok h with ⟨hk, s, hs, rfl⟩ | ⟨hk, t, -, rfl⟩ | ⟨hk, vs, -, rfl⟩ | ⟨hk, rfl⟩ <;>
    simp_all [enumKeys]

theorem EnumFields.sets_dataType : Sets step "dataType" EnumFields.dataType typeExpr := by
  intro f e f' h
  rcases step_eq_ok h with ⟨hk, s, -, rfl⟩ | ⟨hk, t, ht, rfl⟩ | ⟨hk, vs, -, rfl⟩ | ⟨hk, rfl⟩ <;>
    simp_all [enumKeys]

theorem EnumFields.sets_values : Sets step "values" EnumFields.values (list enumValue) := by
  intro f e f' h
  rcases step_eq_ok h with ⟨hk, s, -, rfl⟩ | ⟨hk, t, -, rfl⟩ | ⟨hk, vs, hvs, rfl⟩ | ⟨hk, rfl⟩ <;>
    simp_all [enumKeys]

theorem EnumFields.keeps_extra {f f' : EnumFields} {e : String × Value} (h : f.step e = .ok f') :
    f'.extra = if e.1 ∈ enumKeys then f.extra else f.extra ++ [e] := by
  rcases step_eq_ok h with ⟨hk, s, -, rfl⟩ | ⟨hk, t, -, rfl⟩ | ⟨hk, vs, -, rfl⟩ | ⟨hk, rfl⟩ <;>
    simp_all [enumKeys]

theorem enumFrom_of_ok {v : Value} {x : EnumType} (h : enumType v = .ok x) :
    ∃ o, v = .object o ∧ (Object.Distinct o → EnumFrom o x) := by
  unfold enumType at h
  simp only [bind_eq_ok, object_eq_ok, required_eq_ok, pure_eq_ok] at h
  obtain ⟨o, ho, f, hf, name, hname, dataType, htype, values, hvalues, rfl⟩ := h
  refine ⟨o, ho, fun distinct => ⟨?_, ?_, ?_, ?_⟩⟩
  · obtain ⟨w, hw, hs⟩ := (EnumFields.sets_name.eq_some distinct rfl hf).mp hname
    rw [hw, string_eq_ok.mp hs]
  · obtain ⟨w, hw, ht⟩ := (EnumFields.sets_dataType.eq_some distinct rfl hf).mp htype
    obtain ⟨s, rfl, hparse⟩ := typeExpr_eq_ok.mp ht
    exact ⟨s, hw, hparse⟩
  · obtain ⟨w, hw, hvs⟩ := (EnumFields.sets_values.eq_some distinct rfl hf).mp hvalues
    obtain ⟨items, rfl, hitems⟩ := list_eq_ok.mp hvs
    rw [Object.items_eq hw]
    exact Outcome.mapM_eq_ok.mp hitems
  · exact extra_of_foldlM EnumFields.keeps_extra hf

end SchemaForge.Decode
