import SchemaForge.Proofs.Outcome
import SchemaForge.Proofs.Schema.TypeGraph

/-! Documents in another order. Joining schemas puts their data types in a row, and what validation asks
of the row as a whole does not depend on the order: which names there are, whether one stands twice, and
whether all that is referred to is among them, in front or behind. -/

namespace SchemaForge

namespace Schema

theorem dataTypes_foldl_append (s : Schema) (schemas : List Schema) :
    (schemas.foldl append s).dataTypes = s.dataTypes ++ schemas.flatMap (·.dataTypes) := by
  induction schemas generalizing s with
  | nil => simp
  | cons s' schemas ih =>
    rw [List.foldl_cons, ih, List.flatMap_cons, ← List.append_assoc]
    rfl

theorem dataTypes_merge (schemas : List Schema) :
    (merge schemas).dataTypes = schemas.flatMap (·.dataTypes) :=
  dataTypes_foldl_append empty schemas

variable {s s' : Schema} {predefined : NameSet}

theorem names_perm (perm : s.dataTypes.Perm s'.dataTypes) : s.names.Perm s'.names := perm.map _

theorem Consistent.perm (h : s.Consistent predefined) (perm : s.dataTypes.Perm s'.dataTypes) :
    s'.Consistent predefined where
  nodup := (names_perm perm).nodup_iff.mp h.nodup
  resolved d hd name hname :=
    (h.resolved d (perm.mem_iff.mpr hd) name hname).imp_left (names_perm perm).mem_iff.mp

end Schema

namespace Document

variable {alphabetize : Bool} {sources sources' : List Source} {s : Schema} {predefined : NameSet}
  {v v' : ValidatedSchema}

theorem parseAll_perm (perm : sources.Perm sources') (h : parseAll alphabetize sources = .ok s) :
    ∃ s', parseAll alphabetize sources' = .ok s' ∧ s.dataTypes.Perm s'.dataTypes := by
  obtain ⟨schemas, hschemas, hs⟩ := Outcome.bind_eq_ok.mp h
  obtain ⟨schemas', hschemas', hperm⟩ := Outcome.mapM_perm perm hschemas
  cases hs
  refine ⟨Schema.merge schemas', Outcome.bind_eq_ok.mpr ⟨schemas', hschemas', rfl⟩, ?_⟩
  rw [Schema.dataTypes_merge, Schema.dataTypes_merge]
  exact hperm.flatMap_right _

/-- Documents that parse, together with what holds of them when they have been joined. -/
def Accepts (alphabetize : Bool) (sources : List Source) (predefined : NameSet) (v : ValidatedSchema) :
    Prop :=
  ∃ s, parseAll alphabetize sources = .ok s ∧ s.validate predefined = .ok v

theorem Accepts.unique (h : Accepts alphabetize sources predefined v)
    (h' : Accepts alphabetize sources predefined v') : v = v' := by
  obtain ⟨s, hparse, hvalid⟩ := h
  obtain ⟨s', hparse', hvalid'⟩ := h'
  cases hparse.symm.trans hparse'
  exact Except.ok.inj (hvalid.symm.trans hvalid')

theorem Accepts.perm (h : Accepts alphabetize sources predefined v) (perm : sources.Perm sources') :
    ∃ v', Accepts alphabetize sources' predefined v' ∧
      v.schema.dataTypes.Perm v'.schema.dataTypes := by
  obtain ⟨s, hparse, hvalid⟩ := h
  obtain ⟨consistent, rfl⟩ := Schema.validate_eq_ok.mp hvalid
  obtain ⟨s', hparse', dataTypes⟩ := parseAll_perm perm hparse
  exact ⟨⟨s'⟩, ⟨s', hparse', Schema.validate_of_consistent (consistent.perm dataTypes)⟩, dataTypes⟩

end Document

end SchemaForge
