import Mathlib
import SchemaForge.Generate.Generator
import SchemaForge.Proofs.Render.Exposure
import SchemaForge.Proofs.Schema.TypeGraph
import SchemaForge.Proofs.Schema.WellFormed

/-! What a prepared schema promises to templates and sinks: its data types are as documents give them,
and every raw type that a template can see is one that the schema or an extension defines. -/

namespace SchemaForge.Generator

open Extension (Bridge)
open Json (Value)

variable {g : Generator} {schemas extensions : List Source} {p : Prepared}

theorem prepare_result (g : Generator) (schemas extensions : List Source) :
    (g.prepare schemas extensions).2.result =
      (loadAndCheck g.system g.options schemas extensions).result := rfl

theorem check_eq_ok {options : GeneratorOptions} {x : Extension.Extensions}
    (h : (check options schemas x).2 = .ok p) :
    Document.parseAll options.alphabetize schemas = .ok p.schema.schema ∧
      p.schema.schema.Consistent p.extensions.registrations.predefined := by
  unfold check at h
  split at h
  · cases h
  · next s hparse =>
    split at h
    · cases h
    · next v hvalid =>
      cases h
      obtain ⟨consistent, rfl⟩ := Schema.validate_eq_ok.mp hvalid
      exact ⟨hparse, consistent⟩

theorem prepare_eq_ok (h : (g.prepare schemas extensions).2.result = .ok p) :
    Document.parseAll g.options.alphabetize schemas = .ok p.schema.schema ∧
      p.schema.schema.Consistent p.extensions.registrations.predefined := by
  rw [prepare_result] at h
  unfold loadAndCheck at h
  dsimp only at h
  split at h
  · cases h
  · exact check_eq_ok h

/-- Whatever the documents and the scripts are, members sorted or not. -/
theorem prepare_invariant (h : (g.prepare schemas extensions).2.result = .ok p) :
    p.schema.schema.names.Nodup ∧
    (∀ d ∈ p.schema.schema.dataTypes, d.WellFormed) ∧
    ∀ d ∈ p.schema.schema.dataTypes,
      d.shownTypes = d.referencedTypes.map Value.string ∧
      ∀ v ∈ d.shownTypes, ∃ name, v = .string name ∧
        (name ∈ p.schema.schema.names ∨ name ∈ p.extensions.registrations.predefined.names) := by
  obtain ⟨hparse, consistent⟩ := prepare_eq_ok h
  refine ⟨consistent.nodup, Document.parseAll_wellFormed hparse, fun d hd => ?_⟩
  refine ⟨d.shownTypes_eq, fun v hv => ?_⟩
  rw [d.shownTypes_eq] at hv
  obtain ⟨name, hname, rfl⟩ := List.mem_map.mp hv
  exact ⟨name, rfl, consistent.resolved d hd name hname⟩

def person : Source := ⟨"person.json",
  "\x7b\"dataTypes\": [\x7b\"name\": \"Person\", \"properties\": [\x7b\"name\": \"friends\", " ++
    "\"dataType\": \"[Person]?\", \"rawDataType\": \"Any\"\x7d]\x7d]\x7d"⟩

theorem prepare_invariant_of_person :
    ∃ p, ((Generator.new ⟨false, none⟩).prepare [person] []).2.result = .ok p ∧
      p.schema.schema.names = ["Person"] ∧ p.schema.schema.names.Nodup ∧
      (∀ d ∈ p.schema.schema.dataTypes, d.WellFormed) ∧
      ∀ d ∈ p.schema.schema.dataTypes,
        d.shownTypes = d.referencedTypes.map Value.string ∧
        ∀ v ∈ d.shownTypes, ∃ name, v = .string name ∧
          (name ∈ p.schema.schema.names ∨ name ∈ p.extensions.registrations.predefined.names) := by
  let s : Schema := ⟨"", [.cls ⟨"Person", [⟨"friends", ⟨"Person", true, true⟩, none,
    [("rawDataType", .string "Any")]⟩], []⟩]⟩
  have hread : Document.read person.name person.contents =
      .ok (.object [("dataTypes", .array [.object [("name", .string "Person"), ("properties",
        .array [.object [("name", .string "friends"), ("dataType", .string "[Person]?"),
          ("rawDataType", .string "Any")]])]])]) := by
    cbv
  have hparse : Document.parseAll false [person] = .ok s := by
    simp only [Document.parseAll, List.mapM_cons, Document.parse, hread]
    rfl
  have consistent : s.Consistent Bridge.new.finish.registrations.predefined := by
    refine ⟨List.nodup_singleton _, ?_⟩
    simp [s, Schema.Resolves, Schema.names, DataType.name, DataType.referencedTypes]
  have hprepared : ((Generator.new ⟨false, none⟩).prepare [person] []).2.result =
      .ok ⟨Bridge.new.finish, ⟨s⟩⟩ := by
    simp only [prepare_result, loadAndCheck, Bridge.loadAll, check, Generator.new, hparse,
      Schema.validate_of_consistent consistent]
  exact ⟨_, hprepared, rfl, prepare_invariant hprepared⟩

end SchemaForge.Generator
