import SchemaForge.Proofs.Schema.DocumentOrder

/-! Documents in parts. Joining schemas is associative and has an empty one, so that documents may be parsed
in two parts and what these hold be joined. The version of the whole is the first that is not empty, at
whatever place it stands; the first document that fails decides how parsing ends. -/

namespace SchemaForge

namespace Schema

variable (a b c : Schema) (schemas schemas' : List Schema)

@[simp] theorem append_empty : a.append empty = a := by
  simp only [append, empty, List.append_nil]
  split
  · next h => rw [← String.isEmpty_iff.mp h]
  · rfl

theorem append_assoc : (a.append b).append c = a.append (b.append c) := by
  simp only [append, List.append_assoc]
  by_cases h : a.version.isEmpty <;> simp [h]

theorem foldl_append : schemas.foldl append a = a.append (merge schemas) := by
  induction schemas generalizing a with
  | nil => simp [merge]
  | cons b schemas ih =>
    have rest : merge (b :: schemas) = b.append (merge schemas) := ih b
    rw [List.foldl_cons, ih, rest, append_assoc]

theorem merge_cons : merge (a :: schemas) = a.append (merge schemas) := foldl_append a schemas

theorem merge_pair : merge [a, b] = a.append b := rfl

theorem merge_append : merge (schemas ++ schemas') = merge [merge schemas, merge schemas'] := by
  rw [merge_pair, merge, List.foldl_append, ← merge, foldl_append]

/-- The first version that is not empty. -/
def firstVersion : String := ((schemas.map (·.version)).find? (· ≠ "")).getD ""

theorem version_merge : (merge schemas).version = firstVersion schemas := by
  induction schemas with
  | nil => rfl
  | cons a schemas ih =>
    rw [merge_cons, append, firstVersion, List.map_cons]
    by_cases h : a.version = ""
    · rw [if_pos (String.isEmpty_iff.mpr h), List.find?_cons_of_neg (by simpa using h), ih]
      rfl
    · rw [if_neg (mt String.isEmpty_iff.mp h), List.find?_cons_of_pos (by simpa using h)]
      rfl

end Schema

namespace Document

variable {alphabetize : Bool} {sources : List Source} {s : Schema} {e : SchemaError}

/-- Schemas that documents hold, one for each. -/
def ParsedAs (alphabetize : Bool) (sources : List Source) (schemas : List Schema) : Prop :=
  List.Forall₂ (fun source s => parse alphabetize source = .ok s) sources schemas

theorem parsedAs_iff {schemas : List Schema} :
    ParsedAs alphabetize sources schemas ↔ sources.mapM (parse alphabetize) = .ok schemas :=
  Outcome.mapM_eq_ok.symm

theorem parseAll_eq_ok : parseAll alphabetize sources = .ok s ↔
    ∃ schemas, ParsedAs alphabetize sources schemas ∧ Schema.merge schemas = s := by
  simp only [parseAll, Outcome.bind_eq_ok, parsedAs_iff, Except.ok.injEq]

theorem parseAll_eq_error : parseAll alphabetize sources = .error e ↔
    Outcome.At (fun source => ∃ s, parse alphabetize source = .ok s)
      (fun source => parse alphabetize source = .error e) sources := by
  simp [parseAll, Outcome.bind_eq_error, Outcome.mapM_eq_error]

theorem parsedAs_append {xs ys : List Source} {schemas : List Schema} :
    ParsedAs alphabetize (xs ++ ys) schemas ↔ ∃ before, ParsedAs alphabetize xs before ∧
      ∃ after, ParsedAs alphabetize ys after ∧ before ++ after = schemas := by
  simp only [parsedAs_iff, List.mapM_append, Outcome.bind_eq_ok, Outcome.pure_eq_ok]

theorem exists_parseAll_eq_ok : (∃ s, parseAll alphabetize sources = .ok s) ↔
    ∀ source ∈ sources, ∃ s, parse alphabetize source = .ok s := by
  rw [← Outcome.exists_mapM_eq_ok]
  simp only [parseAll_eq_ok, parsedAs_iff]
  constructor
  · rintro ⟨_, schemas, parsed, -⟩
    exact ⟨schemas, parsed⟩
  · rintro ⟨schemas, parsed⟩
    exact ⟨_, schemas, parsed, rfl⟩

/-- Documents that all parse hold, taken together, what their two parts hold when these are joined: the data
types of each document in its place, and the first version that is not empty. Otherwise the first document
that fails decides on the error, whatever stands behind it. -/
theorem parseAll_append (alphabetize : Bool) (xs ys : List Source) :
    ((∃ s, parseAll alphabetize (xs ++ ys) = .ok s) ↔
      ∀ source ∈ xs ++ ys, ∃ s, parse alphabetize source = .ok s) ∧
    (∀ s, parseAll alphabetize (xs ++ ys) = .ok s ↔ ∃ a b, parseAll alphabetize xs = .ok a ∧
      parseAll alphabetize ys = .ok b ∧ Schema.merge [a, b] = s) ∧
    (∀ s, parseAll alphabetize (xs ++ ys) = .ok s ↔
      ∃ schemas, ParsedAs alphabetize (xs ++ ys) schemas ∧
        ⟨Schema.firstVersion schemas, schemas.flatMap (·.dataTypes)⟩ = s) ∧
    ∀ e, parseAll alphabetize (xs ++ ys) = .error e ↔
      Outcome.At (fun source => ∃ s, parse alphabetize source = .ok s)
        (fun source => parse alphabetize source = .error e) (xs ++ ys) := by
  refine ⟨exists_parseAll_eq_ok, fun s => ?_, fun s => ?_, fun e => parseAll_eq_error⟩
  · simp only [parseAll_eq_ok, parsedAs_append]
    constructor
    · rintro ⟨_, ⟨before, hbefore, after, hafter, rfl⟩, rfl⟩
      exact ⟨_, _, ⟨before, hbefore, rfl⟩, ⟨after, hafter, rfl⟩,
        (Schema.merge_append before after).symm⟩
    · rintro ⟨_, _, ⟨before, hbefore, rfl⟩, ⟨after, hafter, rfl⟩, rfl⟩
      exact ⟨_, ⟨before, hbefore, after, hafter, rfl⟩, Schema.merge_append before after⟩
  · simp only [parseAll_eq_ok, ← Schema.version_merge, ← Schema.dataTypes_merge]

end Document

end SchemaForge
