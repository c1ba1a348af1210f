import Mathlib
import SchemaForge.Proofs.Generate.Progress

/-! The stages of runs. Every stage comes behind one that leads to it, a data type behind the one in front
of it, and the last one tells how the run has ended: done behind the last data type only, or failed. -/

namespace SchemaForge

inductive Stage.Follows : Stage → Stage → Prop
  | parse : Follows .loadingExtensions .parsingSchemas
  | validate : Follows .parsingSchemas .validating
  | accept : Follows .validating .validated
  | render (total : Nat) : Follows .validating (.rendering 0 total)
  | next {current total : Nat} (more : current < total) :
      Follows (.rendering current total) (.rendering (current + 1) total)
  | finish (total : Nat) : Follows (.rendering total total) .done
  | unloaded : Follows .loadingExtensions .failed
  | unparsed : Follows .parsingSchemas .failed
  | invalid : Follows .validating .failed
  | stop (current total : Nat) : Follows (.rendering current total) .failed

namespace Generator

open Extension (Extensions Bridge)

section Checking

variable {system : System} {options : GeneratorOptions} {schemas extensions : List Source}

theorem loadAndCheck_stages_of_ok {p : Prepared}
    (h : (loadAndCheck system options schemas extensions).result = .ok p) :
    (loadAndCheck system options schemas extensions).stages =
      [.loadingExtensions, .parsingSchemas, .validating] := by
  cases hload : Extensions.load extensions system with
  | error e =>
    rw [(loadAndCheck_of_load_error options schemas hload).1] at h
    cases h
  | ok x =>
    obtain ⟨result, stages⟩ := loadAndCheck_of_load options schemas hload
    rw [result] at h
    rw [stages]
    unfold check at h ⊢
    split at h
    · cases h
    · split at h
      · cases h
      · rfl

theorem loadAndCheck_stages_of_error {e : GenerateError}
    (h : (loadAndCheck system options schemas extensions).result = .error e) :
    ((loadAndCheck system options schemas extensions).stages ++ [Stage.failed]).IsChain Stage.Follows ∧
      (loadAndCheck system options schemas extensions).stages.head? = some .loadingExtensions := by
  cases hload : Extensions.load extensions system with
  | error e =>
    rw [(loadAndCheck_of_load_error options schemas hload).2]
    exact ⟨by simp [Stage.Follows.unloaded], rfl⟩
  | ok x =>
    obtain ⟨result, stages⟩ := loadAndCheck_of_load options schemas hload
    rw [result] at h
    rw [stages]
    refine ⟨?_, rfl⟩
    unfold check at h ⊢
    split at h
    · simp [Stage.Follows.parse, Stage.Follows.unparsed]
    · split at h
      · simp [Stage.Follows.parse, Stage.Follows.validate, Stage.Follows.invalid]
      · cases h

end Checking

/-- Preparing passes through its stages in order and ends validated or failed, as its result says. -/
theorem prepare_stages (g : Generator) (schemas extensions : List Source) :
    let (g', p) := g.prepare schemas extensions
    p.stages.IsChain Stage.Follows ∧ p.stages.head? = some .loadingExtensions ∧
      p.stages.getLast? = some g'.stage ∧
      ((g'.stage = .validated ∧ ∃ prepared, p.result = .ok prepared) ∨
        (g'.stage = .failed ∧ ∃ e, p.result = .error e)) := by
  unfold prepare
  dsimp only
  cases hresult : (loadAndCheck g.system g.options schemas extensions).result with
  | error e =>
    obtain ⟨chain, first⟩ := loadAndCheck_stages_of_error hresult
    exact ⟨chain, by rw [List.head?_append, first]; rfl, List.getLast?_concat, .inr ⟨rfl, e, rfl⟩⟩
  | ok p =>
    rw [loadAndCheck_stages_of_ok hresult]
    refine ⟨?_, rfl, rfl, .inl ⟨rfl, p, rfl⟩⟩
    simp [Stage.Follows.parse, Stage.Follows.validate, Stage.Follows.accept]

section Rendering

variable {σ : Type}

theorem renderingStages_chain {total begun : Nat} (inside : begun ≤ total) :
    (renderingStages total begun).IsChain Stage.Follows := by
  unfold renderingStages
  rw [List.isChain_map]
  exact (List.isChain_range_succ _ begun).mpr fun i more => .next (Nat.lt_of_lt_of_le more inside)

theorem renderingStages_head? (total begun : Nat) :
    (renderingStages total begun).head? = some (.rendering 0 total) := by
  simp [renderingStages, List.range_succ_eq_map]

theorem renderingStages_getLast? (total begun : Nat) :
    (renderingStages total begun).getLast? = some (.rendering begun total) := by
  simp [renderingStages, List.range_succ]

/-- The data types that have had their turn are those whose artifacts have landed and the one that has
ended the pass. -/
theorem writeArtifacts_begun (t : Template.Template) (extension : Option String) (sink : Sink σ)
    (x : Extensions) (store : σ) (ds : List DataType) :
    let w := writeArtifacts t extension sink x store ds
    w.begun = w.artifacts.length + if w.error?.isSome then 1 else 0 := by
  induction ds generalizing x store with
  | nil => rfl
  | cons d ds ih =>
    rw [writeArtifacts]
    split
    · rfl
    · next x' text _ =>
      dsimp only
      split
      · rfl
      · next store' _ =>
        have rest := ih x' store'
        dsimp only at rest ⊢
        rw [rest, List.length_cons]
        omega

theorem writeAll_begun (options : GeneratorOptions) (p : Prepared) (template : Source) (sink : Sink σ)
    (store : σ) :
    let w := writeAll options p template sink store
    w.begun ≤ p.schema.schema.dataTypes.length ∧
      (w.error? = none → w.begun = p.schema.schema.dataTypes.length) := by
  unfold writeAll
  split
  · exact ⟨Nat.zero_le _, nofun⟩
  · next t _ =>
    have begun := writeArtifacts_begun t (Artifact.extension? options.fileExtension template.name) sink
      p.extensions store p.schema.schema.dataTypes
    obtain ⟨-, -, ⟨none, all⟩ | ⟨e, some, stops⟩⟩ := writeArtifacts_progress t
      (Artifact.extension? options.fileExtension template.name) sink p.extensions store
      p.schema.schema.dataTypes
    · dsimp only at begun ⊢
      rw [begun, none, all]
      exact ⟨Nat.le_refl _, fun _ => rfl⟩
    · have inside := stops.lt
      dsimp only at begun ⊢
      rw [begun, some]
      exact ⟨inside, nofun⟩

theorem writingStages_chain {s : Schema} {begun : Nat} {last : Stage}
    (inside : begun ≤ s.dataTypes.length)
    (ends : Stage.Follows (.rendering begun s.dataTypes.length) last) :
    (writingStages s begun last).IsChain Stage.Follows := by
  unfold writingStages
  rw [List.append_assoc, List.isChain_append, List.isChain_append, List.head?_append,
    renderingStages_head?, renderingStages_getLast?]
  have checks : [Stage.loadingExtensions, .parsingSchemas, .validating].IsChain Stage.Follows := by
    simp [Stage.Follows.parse, Stage.Follows.validate]
  refine ⟨checks, ⟨renderingStages_chain inside, List.isChain_singleton _, ?_⟩, ?_⟩
  · rintro _ ⟨⟩ _ ⟨⟩
    exact ends
  · rintro _ ⟨⟩ _ ⟨⟩
    exact .render _

end Rendering

variable {σ : Type}

/-- A run passes through its stages in order, and ends done or failed, as its result says. -/
theorem generate_stages (g : Generator) (inputs : GenerationInputs) (sink : Sink σ) (store : σ) :
    let run := g.generate inputs sink store
    run.stages.IsChain Stage.Follows ∧ run.stages.head? = some .loadingExtensions ∧
      run.stages.getLast? = some run.generator.stage ∧
      ((run.generator.stage = .done ∧ ∃ report, run.result = .ok report) ∨
        (run.generator.stage = .failed ∧ ∃ e, run.result = .error e)) := by
  unfold generate
  dsimp only
  cases hresult : (loadAndCheck g.system g.options inputs.schemas inputs.extensions).result with
  | error e =>
    obtain ⟨chain, first⟩ := loadAndCheck_stages_of_error hresult
    exact ⟨chain, by rw [List.head?_append, first]; rfl, List.getLast?_concat, .inr ⟨rfl, e, rfl⟩⟩
  | ok p =>
    obtain ⟨inside, all⟩ := writeAll_begun g.options p inputs.template sink store
    dsimp only
    rw [loadAndCheck_stages_of_ok hresult]
    cases hw : (writeAll g.options p inputs.template sink store).error? with
    | none =>
      refine ⟨writingStages_chain inside ?_, rfl, List.getLast?_concat, .inl ⟨rfl, _, rfl⟩⟩
      rw [all hw]
      exact .finish _
    | some e =>
      exact ⟨writingStages_chain inside (.stop _ _), rfl, List.getLast?_concat, .inr ⟨rfl, e, rfl⟩⟩

theorem generate_turns {g : Generator} {inputs : GenerationInputs} {x : Extensions} {s : Schema}
    {t : Template.Template} (setup : Setup g inputs x s t) (sink : Sink σ) (store : σ) :
    let run := g.generate inputs sink store
    run.stages = writingStages s (run.written.length + if run.result.isOk then 0 else 1)
      run.generator.stage := by
  have begun := writeArtifacts_begun t (Artifact.extension? g.options.fileExtension inputs.template.name)
    sink x store s.dataTypes
  dsimp only at begun ⊢
  cases hw : (writeArtifacts t (Artifact.extension? g.options.fileExtension inputs.template.name) sink x
    store s.dataTypes).error? with
  | none =>
    rw [hw] at begun
    rw [generate_of_done g sink store setup rfl hw, begun]
    rfl
  | some e =>
    rw [hw] at begun
    rw [generate_of_stop g sink store setup rfl hw, begun]
    rfl

end Generator

end SchemaForge
