import Mathlib
import SchemaForge.Proofs.Json.ReaderKeys
import SchemaForge.Proofs.Schema.Entry
import SchemaForge.Proofs.Yaml.ReaderKeys

/-! The language of schema documents. A document that is read is accepted just when its structure is
good and all its entries are legal; a bad structure is reported before anything else, and otherwise the
first entry with a fault is. -/

namespace SchemaForge

/-- An error that an entry of good structure can cause. Such an entry is an object, its kind is known,
and no field of it is missing or of another type than it must be. -/
def SchemaError.OfEntry : SchemaError → Prop
  | .invalidName .. | .enumBacking .. | .duplicateMember .. => True
  | .decode _ _ message => ∃ c : TypeExpr.Error, message = c.message
  | _ => False

namespace Document

open Json (Object Value)
open Outcome (At)
open Structure (ObjectOf EntryShape)

variable {file : String} {v : Value} {e : SchemaError}

theorem EntryFault.ofEntry (fault : EntryFault file v e) : e.OfEntry := by
  cases fault with
  | name | backing | member => trivial
  | @type n c => exact ⟨c, rfl⟩

theorem wellKeyed_of_read {source : String} (h : read file source = .ok v) : v.WellKeyed := by
  unfold read at h
  split at h
  · split at h
    · next hread => exact Json.wellKeyed_of_read (Except.ok.inj h ▸ hread)
    · cases h
  · split at h
    · next hread => exact Yaml.wellKeyed_of_read (Except.ok.inj h ▸ hread)
    · cases h
  · cases h

section Entries

variable (alphabetize : Bool) (file : String)

theorem entry_outcome (hkeys : v.WellKeyed) (shape : ObjectOf EntryShape v) :
    (∃ d, entry alphabetize file v = .ok d ∧ EntryLegal v) ∨
      ∃ e, entry alphabetize file v = .error e ∧ EntryFault file v e := by
  obtain ⟨o, rfl, shape⟩ := shape
  unfold entry
  rcases decodeEntry_outcome file hkeys shape with ⟨d, hd, decoded⟩ | ⟨e, he, fault⟩
  · rw [hd]
    have types : ∀ s ∈ typeTexts (.object o), Parses s := by
      have hout := Outcome.mapM_eq_ok.mpr decoded.types
      exact Outcome.exists_mapM_eq_ok.mp ⟨_, hout⟩
    cases hdup : d.duplicateMember? with
    | none =>
      have nodup := DataType.duplicateMember?_eq_none.mp hdup
      refine .inl ⟨if alphabetize then d.alphabetize else d, by simp only [bind, Except.bind, hdup],
        ?_, types, decoded.backing, ?_⟩
      · intro n hn
        cases decoded.name.symm.trans hn
        exact decoded.safe
      · exact decoded.members ▸ nodup
    | some m =>
      have repeated := DataType.duplicateMember?_eq_some.mp hdup
      rw [decoded.members] at repeated
      exact .inr ⟨_, by simp only [bind, Except.bind, hdup],
        .member decoded.name decoded.safe types decoded.backing repeated⟩
  · rw [he]
    exact .inr ⟨e, rfl, fault⟩

theorem entry_accepts_iff (hkeys : v.WellKeyed) (shape : ObjectOf EntryShape v) :
    (∃ d, entry alphabetize file v = .ok d) ↔ EntryLegal v := by
  rcases entry_outcome alphabetize file hkeys shape with
    ⟨d, hd, legal⟩ | ⟨e, he, fault⟩
  · exact ⟨fun _ => legal, fun _ => ⟨d, hd⟩⟩
  · refine ⟨?_, fun legal => absurd legal fault.not_legal⟩
    rintro ⟨d, hd⟩
    cases he.symm.trans hd

theorem entry_refuses_iff (hkeys : v.WellKeyed) (shape : ObjectOf EntryShape v) :
    entry alphabetize file v = .error e ↔ EntryFault file v e := by
  rcases entry_outcome alphabetize file hkeys shape with
    ⟨d, hd, legal⟩ | ⟨e', he', fault⟩
  · refine ⟨fun he => ?_, fun fault => absurd legal fault.not_legal⟩
    cases hd.symm.trans he
  · rw [he']
    constructor
    · rintro ⟨⟩
      exact fault
    · intro fault'
      rw [fault.unique fault']

theorem ofValue_of_violations (h : Structure.violations v ≠ []) :
    ofValue alphabetize file v =
      .error (.structure file ((Structure.violations v).map (·.text))) := by
  unfold ofValue
  rw [if_neg]
  rwa [List.isEmpty_iff]

theorem ofValue_eq_mapM (h : Structure.violations v = []) :
    ∃ version, ofValue alphabetize file v =
      (do
        let dataTypes ← (itemsAt "dataTypes" v).mapM (entry alphabetize file)
        .ok ⟨version, dataTypes⟩) := by
  obtain ⟨o, rfl, -⟩ := Structure.violations_eq_nil.mp h
  refine ⟨versionOf o, ?_⟩
  unfold ofValue
  rw [h]
  rfl

theorem entryShape_of_mem (h : Structure.violations v = []) {x : Value}
    (hx : x ∈ itemsAt "dataTypes" v) : ObjectOf EntryShape x := by
  obtain ⟨o, rfl, shape⟩ := Structure.violations_eq_nil.mp h
  obtain ⟨w, hw, items, rfl, hitems⟩ := shape.dataTypes
  refine hitems x ?_
  rwa [itemsAt, Object.items_eq hw] at hx

theorem wellKeyed_of_mem (hkeys : v.WellKeyed) {key : String} {x : Value}
    (hx : x ∈ itemsAt key v) : x.WellKeyed := by
  cases v with
  | object o => exact hkeys.of_mem_items hx
  | _ => cases hx

theorem ofValue_accepts_iff (hkeys : v.WellKeyed) :
    (∃ s, ofValue alphabetize file v = .ok s) ↔
      Structure.violations v = [] ∧ ∀ x ∈ itemsAt "dataTypes" v, EntryLegal x := by
  by_cases h : Structure.violations v = []
  · obtain ⟨version, heq⟩ := ofValue_eq_mapM alphabetize file h
    have legal_iff : (∃ out, (itemsAt "dataTypes" v).mapM (entry alphabetize file) = .ok out) ↔
        ∀ x ∈ itemsAt "dataTypes" v, EntryLegal x := by
      rw [Outcome.exists_mapM_eq_ok]
      exact forall₂_congr fun x hx =>
        entry_accepts_iff alphabetize file (wellKeyed_of_mem hkeys hx) (entryShape_of_mem h hx)
    rw [heq, ← legal_iff]
    simp only [Outcome.bind_eq_ok, h, true_and]
    constructor
    · rintro ⟨_, out, hout, -⟩
      exact ⟨out, hout⟩
    · rintro ⟨out, hout⟩
      exact ⟨_, out, hout, rfl⟩
  · rw [ofValue_of_violations alphabetize file h]
    refine ⟨nofun, ?_⟩
    rintro ⟨hnil, -⟩
    exact absurd hnil h

theorem ofValue_refuses_iff (hkeys : v.WellKeyed) (h : Structure.violations v = []) :
    ofValue alphabetize file v = .error e ↔
      At EntryLegal (fun x => EntryFault file x e) (itemsAt "dataTypes" v) := by
  obtain ⟨version, heq⟩ := ofValue_eq_mapM alphabetize file h
  have accepts {x : Value} (hx : x ∈ itemsAt "dataTypes" v) :=
    entry_accepts_iff alphabetize file (wellKeyed_of_mem hkeys hx)
      (entryShape_of_mem h hx)
  have refuses {x : Value} (hx : x ∈ itemsAt "dataTypes" v) :=
    entry_refuses_iff alphabetize file (e := e)
      (wellKeyed_of_mem hkeys hx) (entryShape_of_mem h hx)
  have first : ofValue alphabetize file v = .error e ↔
      (itemsAt "dataTypes" v).mapM (entry alphabetize file) = .error e := by
    rw [heq, Outcome.bind_eq_error]
    refine ⟨?_, .inl⟩
    rintro (he | ⟨_, -, he⟩)
    · exact he
    · cases he
  rw [first, Outcome.mapM_eq_error]
  constructor
  · exact At.imp (fun x hx => (accepts hx).mp) (fun x hx => (refuses hx).mp)
  · exact At.imp (fun x hx => (accepts hx).mpr) (fun x hx => (refuses hx).mpr)

end Entries

theorem parse_eq_ofValue {alphabetize : Bool} {source : Source}
    (hread : read source.name source.contents = .ok v) :
    parse alphabetize source = ofValue alphabetize source.name v := by
  rw [parse, hread]
  rfl

/-- Which documents are accepted, and what is reported of those that are not. -/
theorem parse_decides_language {alphabetize : Bool} {source : Source}
    (hread : read source.name source.contents = .ok v) :
    ((∃ s, parse alphabetize source = .ok s) ↔
      Structure.violations v = [] ∧ ∀ x ∈ itemsAt "dataTypes" v, EntryLegal x) ∧
    (Structure.violations v ≠ [] → parse alphabetize source =
      .error (.structure source.name ((Structure.violations v).map (·.text)))) ∧
    (Structure.violations v = [] → ∀ e,
      (parse alphabetize source = .error e ↔
        At EntryLegal (fun x => EntryFault source.name x e) (itemsAt "dataTypes" v)) ∧
      (parse alphabetize source = .error e → e.OfEntry)) := by
  have hkeys := wellKeyed_of_read hread
  rw [parse_eq_ofValue hread]
  refine ⟨ofValue_accepts_iff alphabetize source.name hkeys,
    ofValue_of_violations alphabetize source.name, fun h e => ?_⟩
  have refuses := ofValue_refuses_iff alphabetize source.name (e := e) hkeys h
  refine ⟨refuses, fun he => ?_⟩
  obtain ⟨_, x, _, -, -, fault⟩ := refuses.mp he
  exact fault.ofEntry

def pointAndAxis : Source := ⟨"point.json", "\x7b\"dataTypes\":[\x7b\"name\":\"Point\",\"properties\":[" ++
  "\x7b\"name\":\"y\",\"dataType\":\"[Axis]?\"\x7d,\x7b\"name\":\"x\",\"dataType\":\"Axis\"\x7d]\x7d," ++
  "\x7b\"type\":\"enum\",\"name\":\"Axis\",\"dataType\":\"Int\",\"values\":[" ++
  "\x7b\"name\":\"up\",\"value\":1\x7d]\x7d]\x7d"⟩

def pointClass : Value := .object [("name", .string "Point"), ("properties", .array [
  .object [("name", .string "y"), ("dataType", .string "[Axis]?")],
  .object [("name", .string "x"), ("dataType", .string "Axis")]])]

def axisEnum : Value := .object [("type", .string "enum"), ("name", .string "Axis"),
  ("dataType", .string "Int"),
  ("values", .array [.object [("name", .string "up"), ("value", .number (.int 1))]])]

theorem read_pointAndAxis : read pointAndAxis.name pointAndAxis.contents =
    .ok (.object [("dataTypes", .array [pointClass, axisEnum])]) := by
  cbv

theorem parse_decides_language_of_point :
    let v : Value := .object [("dataTypes", .array [pointClass, axisEnum])]
    read pointAndAxis.name pointAndAxis.contents = .ok v ∧ (∃ s, parse true pointAndAxis = .ok s) ∧
      Structure.violations v = [] ∧ EntryLegal pointClass ∧ EntryLegal axisEnum := by
  have accepted : (parse true pointAndAxis).toOption.isSome = true := by
    rw [parse_eq_ofValue read_pointAndAxis]
    decide +kernel
  obtain ⟨s, accepted⟩ := Option.isSome_iff_exists.mp accepted
  have parsed := Outcome.toOption_eq_some.mp accepted
  obtain ⟨sound, legal⟩ := (parse_decides_language read_pointAndAxis).1.mp ⟨s, parsed⟩
  refine ⟨read_pointAndAxis, ⟨s, parsed⟩, sound, legal pointClass ?_, legal axisEnum ?_⟩
  · exact List.mem_cons_self
  · exact List.mem_cons_of_mem _ List.mem_cons_self

end Document

end SchemaForge
