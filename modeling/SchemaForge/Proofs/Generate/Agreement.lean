import SchemaForge.Proofs.Extension.Loading
import SchemaForge.Proofs.Generate.Prepared
import SchemaForge.Proofs.Generate.Progress
import SchemaForge.Proofs.Schema.MemberOrder

/-! Preparing against generating. Both load, parse and validate; generating goes on from there to the
template. Preparing therefore foretells how a generation ends up to that point, also where the two order
members in different ways: then only the dangling reference that they report may differ. -/

namespace SchemaForge

/-- Failures of one kind in one phase: the same, or two dangling references of one data type. -/
inductive GenerateError.Akin : GenerateError → GenerateError → Prop
  | same (e : GenerateError) : Akin e e
  | validation {e e' : ValidationError} (h : e.Akin e') : Akin (.validation e) (.validation e')

def GenerateError.IsDangling (e : GenerateError) : Prop :=
  ∃ name usedBy, e = .validation (.undefinedType name usedBy)

theorem GenerateError.Akin.eq {e e' : GenerateError} (h : e.Akin e') (other : ¬ e.IsDangling) :
    e' = e := by
  cases h with
  | same => rfl
  | validation h =>
    cases h with
    | same => rfl
    | dangling name name' usedBy => exact absurd ⟨name, usedBy, rfl⟩ other

namespace Generator

open Extension (Bridge Extensions)
open Outcome (Matches)

section Checking

variable {system : System} {options options' : GeneratorOptions} {schemas extensions : List Source}
  {x : Extensions}

theorem check_matches (options options' : GeneratorOptions) (schemas : List Source) (x : Extensions) :
    Matches GenerateError.Akin (fun _ _ => True) (check options schemas x).2
      (check options' schemas x).2 := by
  unfold check
  rw [Document.parseAll_ordered options.alphabetize, Document.parseAll_ordered options'.alphabetize]
  cases Document.parseAll false schemas with
  | error e => exact .error (.same _)
  | ok s =>
    have validated := s.validate_ordered options.alphabetize options'.alphabetize
      x.registrations.predefined
    simp only [Except.map]
    generalize (s.ordered options.alphabetize).validate _ = r at validated ⊢
    generalize (s.ordered options'.alphabetize).validate _ = r' at validated ⊢
    cases validated with
    | ok => exact .ok trivial
    | error akin => exact .error (.validation akin)

theorem loadAndCheck_matches (system : System) (options options' : GeneratorOptions)
    (schemas extensions : List Source) :
    Matches GenerateError.Akin (fun _ _ => True) (loadAndCheck system options schemas extensions).result
      (loadAndCheck system options' schemas extensions).result := by
  cases hload : Extensions.load extensions system with
  | error e =>
    rw [(loadAndCheck_of_load_error options schemas hload).1,
      (loadAndCheck_of_load_error options' schemas hload).1]
    exact .error (.same _)
  | ok x =>
    rw [(loadAndCheck_of_load options schemas hload).1, (loadAndCheck_of_load options' schemas hload).1]
    exact check_matches options options' schemas x

theorem loadAndCheck_congr (h : options.alphabetize = options'.alphabetize)
    (schemas extensions : List Source) :
    loadAndCheck system options schemas extensions = loadAndCheck system options' schemas extensions := by
  unfold loadAndCheck check
  rw [h]

inductive FailsCheck : GenerateError → Prop
  | extension (cause : Extension.ExtensionError) : FailsCheck (.extension cause)
  | schema (cause : SchemaError) : FailsCheck (.schema cause)
  | validation (cause : ValidationError) : FailsCheck (.validation cause)

theorem check_error {e : GenerateError} (h : (check options schemas x).2 = .error e) :
    FailsCheck e ∧ e.isFatalExtension = false := by
  unfold check at h
  split at h
  · next cause _ =>
    cases h
    exact ⟨.schema cause, rfl⟩
  · split at h
    · next cause _ =>
      cases h
      exact ⟨.validation cause, rfl⟩
    · cases h

theorem loadAndCheck_error {e : GenerateError}
    (h : (loadAndCheck system options schemas extensions).result = .error e) : FailsCheck e := by
  cases hload : Extensions.load extensions system with
  | error cause =>
    rw [(loadAndCheck_of_load_error options schemas hload).1] at h
    cases h
    exact .extension cause
  | ok x =>
    rw [(loadAndCheck_of_load options schemas hload).1] at h
    exact (check_error h).1

theorem loadAndCheck_fatal_iff (system : System) (options : GeneratorOptions)
    (schemas extensions : List Source) :
    (∃ e, (loadAndCheck system options schemas extensions).result = .error e ∧
        e.isFatalExtension = true) ↔
      ∃ before source e, (Bridge.new system).FailsAt extensions before source e := by
  cases hload : Extensions.load extensions system with
  | error e =>
    rw [(loadAndCheck_of_load_error options schemas hload).1]
    obtain ⟨before, source, failsAt⟩ := Extensions.load_eq_error.mp hload
    exact iff_of_true ⟨_, rfl, rfl⟩ ⟨before, source, e, failsAt⟩
  | ok x =>
    rw [(loadAndCheck_of_load options schemas hload).1]
    refine iff_of_false ?_ ?_
    · rintro ⟨e, he, fatal⟩
      rw [(check_error he).2] at fatal
      cases fatal
    · rintro ⟨before, source, e, failsAt⟩
      cases hload.symm.trans (Extensions.load_eq_error.mpr ⟨before, source, failsAt⟩)

end Checking

section Generating

variable {σ : Type} (g : Generator) (inputs : GenerationInputs) (sink : Sink σ) (store : σ)

theorem writeAll_error {p : Prepared} {template : Source} {e : GenerateError}
    (h : (writeAll g.options p template sink store).error? = some e) :
    (∃ cause, e = .render cause) ∨ ∃ artifact message, e = .output artifact message := by
  unfold writeAll at h
  split at h
  · cases h
    exact .inl ⟨_, rfl⟩
  · next t _ =>
    obtain ⟨-, -, ⟨none, -⟩ | ⟨e', some, stops⟩⟩ := writeArtifacts_progress t
      (Artifact.extension? g.options.fileExtension template.name) sink p.extensions store
      p.schema.schema.dataTypes
    · cases none.symm.trans h
    · cases some.symm.trans h
      cases stops with
      | render => exact .inl ⟨_, rfl⟩
      | write => exact .inr ⟨_, _, rfl⟩

/-- How generating ends behind its checks: done, or failed over the template or the sink. -/
inductive PassesChecks : Except GenerateError GenerationReport → Prop
  | done (report : GenerationReport) : PassesChecks (.ok report)
  | render (cause : RenderError) : PassesChecks (.error (.render cause))
  | output (artifact message : String) : PassesChecks (.error (.output artifact message))

/-- A failed check is what generating comes to, and behind passed ones only the template or the sink
can be at fault. -/
theorem generate_cases :
    let checked := (loadAndCheck g.system g.options inputs.schemas inputs.extensions).result
    let generated := (g.generate inputs sink store).result
    (∃ e, checked = .error e ∧ generated = .error e) ∨
      (∃ p, checked = .ok p) ∧ PassesChecks generated := by
  unfold generate
  dsimp only
  cases (loadAndCheck g.system g.options inputs.schemas inputs.extensions).result with
  | error e => exact .inl ⟨e, rfl, rfl⟩
  | ok p =>
    refine .inr ⟨⟨p, rfl⟩, ?_⟩
    dsimp only
    cases hwritten : (writeAll g.options p inputs.template sink store).error? with
    | none => exact .done _
    | some e =>
      obtain ⟨cause, rfl⟩ | ⟨artifact, message, rfl⟩ := writeAll_error g sink store hwritten
      · exact .render cause
      · exact .output artifact message

theorem passesChecks_iff : PassesChecks (g.generate inputs sink store).result ↔
    ∃ p, (loadAndCheck g.system g.options inputs.schemas inputs.extensions).result = .ok p := by
  rcases generate_cases g inputs sink store with ⟨e, checked, generated⟩ | ⟨checked, passed⟩
  · rw [generated, checked]
    refine iff_of_false (fun passed => ?_) nofun
    have := loadAndCheck_error checked
    cases passed <;> cases this
  · exact iff_of_true passed checked

theorem generate_fatal_iff :
    (∃ e, (g.generate inputs sink store).result = .error e ∧ e.isFatalExtension = true) ↔
      ∃ before source e, (Bridge.new g.system).FailsAt inputs.extensions before source e := by
  rw [← loadAndCheck_fatal_iff g.system g.options inputs.schemas]
  rcases generate_cases g inputs sink store with ⟨e, checked, generated⟩ | ⟨⟨p, checked⟩, passed⟩
  · simp only [generated, checked, Except.error.injEq]
  · rw [checked]
    refine iff_of_false ?_ (by simp)
    rintro ⟨e, he, fatal⟩
    rw [he] at passed
    cases passed <;> cases fatal

/-- Preparing succeeds just when generating gets past its checks, whether or not the two sort members;
and where preparing fails, generating fails with it. An extension is at fault just when a script does
not load, whatever else is given. -/
theorem prepare_foretells_generate (g g' : Generator) :
    let prepared := (g.prepare inputs.schemas inputs.extensions).2.result
    let generated := (Generator.generate { g' with system := g.system } inputs sink store).result
    ((∃ p, prepared = .ok p) ↔ PassesChecks generated) ∧
    (∀ e, prepared = .error e → ∃ e', generated = .error e' ∧ e.Akin e' ∧
      (g.options.alphabetize = g'.options.alphabetize → e' = e) ∧ (¬ e.IsDangling → e' = e)) ∧
    ((∃ e, prepared = .error e ∧ e.isFatalExtension = true) ↔
      ∃ before source e, (Bridge.new g.system).FailsAt inputs.extensions before source e) ∧
    ((∃ e, generated = .error e ∧ e.isFatalExtension = true) ↔
      ∃ before source e, (Bridge.new g.system).FailsAt inputs.extensions before source e) := by
  intro prepared generated
  have hprepared : prepared = _ := prepare_result g inputs.schemas inputs.extensions
  let other : Generator := { g' with system := g.system }
  have ends := loadAndCheck_matches g.system g.options g'.options inputs.schemas inputs.extensions
  rw [hprepared]
  refine ⟨?_, fun e he => ?_, loadAndCheck_fatal_iff _ _ _ _,
    generate_fatal_iff other inputs sink store⟩
  · rw [passesChecks_iff other]
    exact ends.ok_iff
  · obtain ⟨e', checked, akin⟩ := ends.of_error he
    rcases generate_cases other inputs sink store with ⟨e'', checked', failed⟩ | ⟨⟨p, checked'⟩, -⟩
    · cases checked.symm.trans checked'
      refine ⟨e', failed, akin, fun same => ?_, akin.eq⟩
      rw [loadAndCheck_congr same] at he
      exact Except.error.inj (checked.symm.trans he)
    · cases checked.symm.trans checked'

end Generating

end Generator

end SchemaForge
