import Mathlib
import SchemaForge.Proofs.Generate.Apart
import SchemaForge.Proofs.Render.Isolation
import SchemaForge.Proofs.Schema.DocumentOrder

/-! Runs over the same documents in another order, where no script has registered a filter or a tag. Each
artifact is then made of its data type alone, and no two artifacts have one name, so that the runs succeed
together and leave the same behind. -/

namespace SchemaForge.Generator

open Extension (Bridge Extensions)
open Template (Template)

def artifactAlone (system : System) (t : Template) (extension : Option String) (d : DataType) :
    String × String :=
  (Artifact.name d.name extension, (Renderer.alone system t d).toOption.getD "")

section Writing

variable {x : Extensions} (bare : x.Bare) (t : Template) (extension : Option String)
  (store : NameMap String) (ds : List DataType)
include bare

/-- All land, each as it is by itself, or one of them does not render by itself. -/
theorem writeArtifacts_bare :
    let w := writeArtifacts t extension Sink.memory x store ds
    (w.error? = none ↔ ∀ d ∈ ds, ∃ text, Renderer.alone x.system t d = .ok text) ∧
    (w.error? = none → w.artifacts = ds.map (artifactAlone x.system t extension) ∧
      w.store = store.insertAll (ds.map (artifactAlone x.system t extension))) := by
  induction ds generalizing store with
  | nil => exact ⟨iff_of_true rfl nofun, fun _ => ⟨rfl, rfl⟩⟩
  | cons d ds ih =>
    rw [writeArtifacts, Renderer.render_bare bare]
    cases halone : Renderer.alone x.system t d with
    | error e => simp [halone]
    | ok text =>
      have first : artifactAlone x.system t extension d = (Artifact.name d.name extension, text) := by
        rw [artifactAlone, halone]
        rfl
      obtain ⟨lands, made⟩ := ih (store.insert (Artifact.name d.name extension) text)
      refine ⟨?_, fun hnone => ?_⟩
      · rw [List.forall_mem_cons, ← lands]
        exact (and_iff_right ⟨text, halone⟩).symm
      · obtain ⟨artifacts, behind⟩ := made hnone
        rw [List.map_cons, first]
        exact ⟨congrArg _ artifacts, behind⟩

end Writing

theorem artifactAlone_names (system : System) (t : Template) (extension : Option String)
    (ds : List DataType) :
    (ds.map (artifactAlone system t extension)).map (·.1) = artifactNames extension ds := by
  rw [List.map_map]
  rfl

section Runs

variable {g : Generator} (store : NameMap String)

theorem generate_bare {inputs : GenerationInputs} {x : Extensions} {s : Schema} {t : Template}
    (setup : Setup g inputs x s t) (bare : x.Bare) :
    let run := g.generate inputs Sink.memory store
    let artifacts := s.dataTypes.map
      (artifactAlone x.system t (Artifact.extension? g.options.fileExtension inputs.template.name))
    ((∃ report, run.result = .ok report) ↔
      ∀ d ∈ s.dataTypes, ∃ text, Renderer.alone x.system t d = .ok text) ∧
    ∀ report, run.result = .ok report →
      report.artifacts = artifacts.map (·.1) ∧ run.store = store.insertAll artifacts := by
  intro run artifacts
  obtain ⟨lands, made⟩ := writeArtifacts_bare bare t
    (Artifact.extension? g.options.fileExtension inputs.template.name) store s.dataTypes
  rw [← lands]
  cases hw : (writeArtifacts t (Artifact.extension? g.options.fileExtension inputs.template.name)
    Sink.memory x store s.dataTypes).error? with
  | none =>
    have hrun : run = _ := generate_of_done g Sink.memory store setup rfl hw
    obtain ⟨written, behind⟩ := made hw
    rw [hrun]
    refine ⟨iff_of_true ⟨_, rfl⟩ rfl, fun report h => ?_⟩
    cases h
    exact ⟨congrArg (List.map (·.1)) written, behind⟩
  | some e =>
    have hrun : run = _ := generate_of_stop g Sink.memory store setup rfl hw
    rw [hrun]
    exact ⟨iff_of_false nofun nofun, nofun⟩

variable {store} {sources sources' : List Source} {template : Source} {extensions : List Source}

/-- A run that is done over some documents is done over them in any order, and leaves the same. -/
theorem generate_perm (perm : sources.Perm sources')
    (bare : ∀ x, Extensions.load extensions g.system = .ok x → x.Bare) {report : GenerationReport}
    (h : (g.generate ⟨sources, template, extensions⟩ Sink.memory store).result = .ok report) :
    ∃ report', (g.generate ⟨sources', template, extensions⟩ Sink.memory store).result = .ok report' ∧
      report.artifacts.Perm report'.artifacts ∧
      (g.generate ⟨sources, template, extensions⟩ Sink.memory store).store =
        (g.generate ⟨sources', template, extensions⟩ Sink.memory store).store := by
  obtain ⟨x, s, t, setup, -⟩ := progress_of_ok h
  obtain ⟨s', hparse', dataTypes⟩ := Document.parseAll_perm perm setup.parses
  have consistent := (Schema.validate_eq_ok.mp setup.valid).1
  have setup' : Setup g ⟨sources', template, extensions⟩ x s' t :=
    ⟨setup.loads, hparse', Schema.validate_of_consistent (consistent.perm dataTypes), setup.compiles⟩
  obtain ⟨done, made⟩ := generate_bare store setup (bare x setup.loads)
  obtain ⟨done', made'⟩ := generate_bare store setup' (bare x setup.loads)
  have renders := done.mp ⟨report, h⟩
  obtain ⟨report', h'⟩ := done'.mpr fun d hd => renders d (dataTypes.mem_iff.mpr hd)
  obtain ⟨names, behind⟩ := made report h
  obtain ⟨names', behind'⟩ := made' report' h'
  have artifacts := dataTypes.map
    (artifactAlone x.system t (Artifact.extension? g.options.fileExtension template.name))
  refine ⟨report', h', ?_, ?_⟩
  · rw [names, names']
    exact artifacts.map _
  · rw [behind, behind']
    refine NameMap.insertAll_perm store artifacts ?_
    rw [artifactAlone_names]
    exact artifactNames_nodup _ consistent.nodup

/-- How data types are spread over documents plays no part. Documents in another order are accepted just
when they are in this one, with the same data types; and a run over them, with no filters and tags from
scripts, is done just when it is done over these, and leaves the same artifacts with the same texts. -/
theorem documents_in_any_order (perm : sources.Perm sources') (g : Generator) :
    (∀ predefined,
      ((∃ v, Document.Accepts g.options.alphabetize sources predefined v) ↔
        ∃ v', Document.Accepts g.options.alphabetize sources' predefined v') ∧
      ∀ v v', Document.Accepts g.options.alphabetize sources predefined v →
        Document.Accepts g.options.alphabetize sources' predefined v' →
        v.schema.dataTypes.Perm v'.schema.dataTypes) ∧
    ∀ template extensions, (∀ x, Extensions.load extensions g.system = .ok x → x.Bare) →
      let run := g.generate ⟨sources, template, extensions⟩ Sink.memory .empty
      let run' := g.generate ⟨sources', template, extensions⟩ Sink.memory .empty
      ((∃ report, run.result = .ok report) ↔ ∃ report', run'.result = .ok report') ∧
      ∀ report report', run.result = .ok report → run'.result = .ok report' →
        report.artifacts.Perm report'.artifacts ∧ run.store = run'.store := by
  refine ⟨fun predefined => ⟨⟨?_, ?_⟩, fun v v' accepts accepts' => ?_⟩,
    fun template extensions bare => ⟨⟨?_, ?_⟩, fun report report' h h' => ?_⟩⟩
  · rintro ⟨v, accepts⟩
    obtain ⟨v', accepts', -⟩ := accepts.perm perm
    exact ⟨v', accepts'⟩
  · rintro ⟨v', accepts'⟩
    obtain ⟨v, accepts, -⟩ := accepts'.perm perm.symm
    exact ⟨v, accepts⟩
  · obtain ⟨v'', accepts'', dataTypes⟩ := accepts.perm perm
    rwa [accepts'.unique accepts'']
  · rintro ⟨report, h⟩
    obtain ⟨report', h', -⟩ := generate_perm perm bare h
    exact ⟨report', h'⟩
  · rintro ⟨report', h'⟩
    obtain ⟨report, h, -⟩ := generate_perm perm.symm bare h'
    exact ⟨report, h⟩
  · obtain ⟨report'', h'', artifacts, behind⟩ := generate_perm perm bare h
    cases h'.symm.trans h''
    exact ⟨artifacts, behind⟩

end Runs

/-- A document with a reference that only another document resolves, and that one. -/
def owner : Source := ⟨"owner.json", "\x7b\"dataTypes\": [\x7b\"name\": \"Owner\", \"properties\": " ++
  "[\x7b\"name\": \"pet\", \"dataType\": \"Pet\"\x7d]\x7d]\x7d"⟩

def pet : Source := ⟨"pet.json", "\x7b\"dataTypes\": [\x7b\"name\": \"Pet\"\x7d]\x7d"⟩

theorem documents_in_any_order_of_pet :
    let run := (new ⟨false, none⟩).generate ⟨[owner, pet], kotlinClass, []⟩ Sink.memory .empty
    let run' := (new ⟨false, none⟩).generate ⟨[pet, owner], kotlinClass, []⟩ Sink.memory .empty
    [owner, pet].Perm [pet, owner] ∧ Bridge.new.finish.Bare ∧
      run.result = .ok ⟨"", ["Owner.kt", "Pet.kt"]⟩ ∧
      ∃ report', run'.result = .ok report' ∧ report'.artifacts.Perm ["Owner.kt", "Pet.kt"] ∧
        run'.store = run.store := by
  intro run run'
  let s : Schema := ⟨"", [.cls (.plain "Owner" [⟨"pet", ⟨"Pet", false, false⟩, none, []⟩]),
    .cls (.plain "Pet" [])]⟩
  let t : Template := ⟨"model.kt.tera", [.text "class ",
    .tag ⟨false, false⟩ (.output (.plain (.path "name")))], [], [], []⟩
  have hread : Document.read owner.name owner.contents = .ok (.object [("dataTypes", .array
      [.object [("name", .string "Owner"), ("properties", .array
        [.object [("name", .string "pet"), ("dataType", .string "Pet")]])]])]) := by
    cbv
  have hread' : Document.read pet.name pet.contents =
      .ok (.object [("dataTypes", .array [.object [("name", .string "Pet")]])]) := by
    cbv
  have hparse : Document.parseAll false [owner, pet] = .ok s := by
    simp only [Document.parseAll, List.mapM_cons, Document.parse, hread, hread']
    rfl
  have consistent : s.Consistent Bridge.new.finish.registrations.predefined := by
    refine ⟨by decide, ?_⟩
    simp [s, Schema.Resolves, Schema.names, DataType.name, DataType.referencedTypes, ClassType.plain]
  have hcompile : Renderer.compile kotlinClass = .ok t := by cbv
  have setup : Setup (new ⟨false, none⟩) ⟨[owner, pet], kotlinClass, []⟩ Bridge.new.finish s t :=
    ⟨rfl, hparse, Schema.validate_of_consistent consistent, hcompile⟩
  have bare : Bridge.new.finish.Bare := ⟨rfl, rfl⟩
  have hdone (x : Extensions) :
      (writeArtifacts t (some "kt") Sink.memory x .empty s.dataTypes).error? = none := rfl
  have hrun : run = _ := generate_of_done (new ⟨false, none⟩) Sink.memory .empty setup rfl (hdone _)
  have hresult : run.result = .ok ⟨"", ["Owner.kt", "Pet.kt"]⟩ := by
    rw [hrun]
    rfl
  have perm : [owner, pet].Perm [pet, owner] := .swap pet owner []
  have loaded (x : Extensions) (h : Extensions.load [] = .ok x) : x.Bare := by
    cases h
    exact bare
  obtain ⟨done, same⟩ := (documents_in_any_order perm (new ⟨false, none⟩)).2 kotlinClass [] loaded
  obtain ⟨report', hresult'⟩ := done.mp ⟨_, hresult⟩
  obtain ⟨artifacts, behind⟩ := same _ _ hresult hresult'
  exact ⟨perm, bare, hresult, report', hresult', artifacts.symm, behind.symm⟩

end SchemaForge.Generator
