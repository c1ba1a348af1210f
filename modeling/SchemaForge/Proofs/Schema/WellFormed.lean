import SchemaForge.Proofs.Schema.DocumentOrder
import SchemaForge.Proofs.Schema.Language

/-! What holds of every data type that comes out of schema documents, whatever the documents are. The
order of the members plays no part in it. -/

namespace SchemaForge

/-- A data type as documents give it: names are there and tell things apart, and types are written as
they were read. -/
structure DataType.WellFormed (d : DataType) : Prop where
  named : d.name ≠ ""
  safe : SafeName d.name
  members : d.memberNames.Nodup
  membersNamed : ∀ m ∈ d.memberNames, m ≠ ""
  backing : ∀ e, d = .enum e → e.dataType.plain = true
  reparses : ∀ t ∈ d.types, TypeExpr.parse t.text = .ok t

namespace DataType

theorem name_alphabetize (d : DataType) : d.alphabetize.name = d.name := by
  cases d <;> rfl

theorem memberNames_alphabetize (d : DataType) : d.alphabetize.memberNames.Perm d.memberNames := by
  cases d with
  | cls c => exact (List.mergeSort_perm c.properties _).map _
  | enum e => exact (List.mergeSort_perm e.values _).map _

theorem types_alphabetize (d : DataType) : d.alphabetize.types.Perm d.types := by
  cases d with
  | cls c => exact (List.mergeSort_perm c.properties _).map _
  | enum e => exact .refl _

theorem WellFormed.alphabetize {d : DataType} (h : d.WellFormed) : d.alphabetize.WellFormed where
  named := d.name_alphabetize ▸ h.named
  safe := d.name_alphabetize ▸ h.safe
  members := d.memberNames_alphabetize.nodup_iff.mpr h.members
  membersNamed m hm := h.membersNamed m (d.memberNames_alphabetize.mem_iff.mp hm)
  backing e he := by
    cases d with
    | cls c => cases he
    | enum e' =>
      cases he
      exact h.backing e' rfl
  reparses t ht := h.reparses t (d.types_alphabetize.mem_iff.mp ht)

end DataType

namespace Document

open Json (Object Value)
open Decode (textAt textAt_eq_some)
open Structure (ObjectOf ListOf PropertyShape EnumValueShape EntryShape Named)

theorem named_of_textAt {o : Object} (named : Named o) {n : String}
    (h : textAt "name" (.object o) = some n) : n ≠ "" := by
  obtain ⟨m, hm, hne⟩ := named
  cases (textAt_eq_some.mp h).symm.trans hm
  exact hne

theorem named_of_mem_items {o : Object} {key m : String} {Shape : Object → Prop}
    (list : ∀ v, Object.get? o key = some v → ListOf (ObjectOf Shape) v)
    (named : ∀ p, Shape p → Named p)
    (h : m ∈ (Object.items o key).filterMap (textAt "name")) : m ≠ "" := by
  obtain ⟨v, hv, hm⟩ := List.mem_filterMap.mp h
  obtain ⟨items, hitems, hshape⟩ := list _ (Object.get?_of_mem_items hv)
  obtain ⟨p, rfl, hp⟩ := hshape v (Value.array.inj hitems ▸ hv)
  exact named_of_textAt (named p hp) hm

theorem memberTexts_named {o : Object} (shape : EntryShape o) :
    ∀ m ∈ memberTexts (.object o), m ≠ "" := by
  intro m hm
  by_cases isEnum : IsEnum (.object o)
  · rw [memberTexts, if_pos isEnum] at hm
    obtain ⟨w, hw, hlist⟩ := (shape.ofEnum (isEnum_iff.mp isEnum)).values
    refine named_of_mem_items (fun v hv => ?_) (fun p hp => EnumValueShape.name hp) hm
    cases hw.symm.trans hv
    exact hlist
  · rw [memberTexts, if_neg isEnum] at hm
    have hclass := shape.ofClass fun h => isEnum (isEnum_iff.mpr h)
    exact named_of_mem_items hclass.properties (fun p hp => PropertyShape.name hp) hm

theorem Decoded.wellFormed {o : Object} {d : DataType} (decoded : Decoded (.object o) d)
    (shape : EntryShape o) (nodup : d.memberNames.Nodup) : d.WellFormed where
  named := named_of_textAt shape.name decoded.name
  safe := decoded.safe
  members := nodup
  membersNamed m hm := memberTexts_named shape m (decoded.members ▸ hm)
  backing e he := by
    cases he
    have isEnum := decoded.kind.mp rfl
    obtain ⟨s, hs, hparse⟩ := Outcome.exists_of_mem_right decoded.types List.mem_cons_self
    exact (TypeExpr.plain_iff_of_parse hparse).mpr (decoded.backing isEnum s hs)
  reparses t ht := by
    obtain ⟨s, -, hparse⟩ := Outcome.exists_of_mem_right decoded.types ht
    exact TypeExpr.reparse hparse

theorem entry_wellFormed {alphabetize : Bool} {file : String} {v : Value} {d : DataType}
    (hkeys : v.WellKeyed) (shape : ObjectOf EntryShape v)
    (h : entry alphabetize file v = .ok d) : d.WellFormed := by
  obtain ⟨o, rfl, shape⟩ := shape
  obtain ⟨d₀, hd₀, h⟩ := Outcome.bind_eq_ok.mp h
  have decoded : Decoded (.object o) d₀ := by
    rcases decodeEntry_outcome file hkeys shape with ⟨d₁, hd₁, decoded⟩ | ⟨e, he, -⟩
    · cases hd₀.symm.trans hd₁
      exact decoded
    · cases hd₀.symm.trans he
  cases hdup : d₀.duplicateMember? with
  | some m =>
    rw [hdup] at h
    cases h
  | none =>
    rw [hdup] at h
    have hwell := decoded.wellFormed shape (DataType.duplicateMember?_eq_none.mp hdup)
    cases h
    split
    · exact hwell.alphabetize
    · exact hwell

theorem parse_wellFormed {alphabetize : Bool} {source : Source} {s : Schema}
    (h : parse alphabetize source = .ok s) : ∀ d ∈ s.dataTypes, d.WellFormed := by
  obtain ⟨v, hread, h⟩ := Outcome.bind_eq_ok.mp h
  have hkeys := wellKeyed_of_read hread
  have hnil := ((ofValue_accepts_iff alphabetize source.name hkeys).mp ⟨s, h⟩).1
  obtain ⟨version, heq⟩ := ofValue_eq_mapM alphabetize source.name hnil
  obtain ⟨ds, hds, hs⟩ := Outcome.bind_eq_ok.mp (heq ▸ h)
  cases hs
  intro d hd
  obtain ⟨x, hx, hentry⟩ := Outcome.exists_of_mem_right (Outcome.mapM_eq_ok.mp hds) hd
  exact entry_wellFormed (wellKeyed_of_mem hkeys hx) (entryShape_of_mem hnil hx) hentry

theorem parseAll_wellFormed {alphabetize : Bool} {sources : List Source} {s : Schema}
    (h : parseAll alphabetize sources = .ok s) : ∀ d ∈ s.dataTypes, d.WellFormed := by
  obtain ⟨schemas, hschemas, hs⟩ := Outcome.bind_eq_ok.mp h
  cases hs
  intro d hd
  rw [Schema.dataTypes_merge] at hd
  obtain ⟨s', hs', hd⟩ := List.mem_flatMap.mp hd
  obtain ⟨source, -, hparse⟩ := Outcome.exists_of_mem_right (Outcome.mapM_eq_ok.mp hschemas) hs'
  exact parse_wellFormed hparse d hd

end Document

end SchemaForge
