import Mathlib
import SchemaForge.Proofs.Generate.Progress
import SchemaForge.Proofs.NameMap

/-! Artifacts in memory. The artifacts of one run have names of their own, so that none of them takes
the place of another, and what stands under any other name stays. -/

namespace SchemaForge

/-- Behind the same extension, or without one, the name of an artifact tells its data type. -/
theorem Artifact.name_injective (extension : Option String) :
    Function.Injective fun dataType => Artifact.name dataType extension := by
  intro a b h
  cases extension with
  | none => exact h
  | some ext =>
    have h : a ++ "." ++ ext = b ++ "." ++ ext := h
    exact (String.append_left_inj _).mp ((String.append_left_inj _).mp h)

namespace Generator

open Extension (Bridge Extensions)
open Json (Value)
open Template (Template)

theorem artifactNames_nodup (extension : Option String) {s : Schema} (h : s.names.Nodup) :
    (artifactNames extension s.dataTypes).Nodup := by
  have hnames : artifactNames extension s.dataTypes =
      s.names.map fun name => Artifact.name name extension := by
    rw [artifactNames, Schema.names, List.map_map]
    rfl
  rw [hnames]
  exact h.map (Artifact.name_injective extension)

theorem Progress.names_eq {σ : Type} {t : Template} {extension : Option String} {sink : Sink σ}
    {x : Extensions} {store after : σ} {ds : List DataType} {written : List (String × String)}
    (h : Progress t extension sink x store ds written after) (hall : written.length = ds.length) :
    written.map (·.1) = artifactNames extension ds := by
  have hlength : (artifactNames extension ds).length = ds.length := List.length_map _
  rw [h.names, hall, ← hlength, List.take_length]

theorem landing_memory (store : NameMap String) (artifacts : List (String × String)) :
    landing Sink.memory store artifacts =
      .ok (store.insertAll artifacts) := by
  induction artifacts generalizing store with
  | nil => rfl
  | cons a artifacts ih => exact ih (store.insert a.1 a.2)

section Writing

variable {t : Template} {extension : Option String} {x : Extensions} {store after : NameMap String}
  {ds : List DataType} {written : List (String × String)}

theorem Progress.store_eq (h : Progress t extension Sink.memory x store ds written after) :
    after = store.insertAll written := by
  have landed := h.landed
  rw [landing_memory] at landed
  exact (Except.ok.inj landed).symm

theorem Progress.get?_written (h : Progress t extension Sink.memory x store ds written after)
    (nodup : (written.map (·.1)).Nodup) {a : String × String} (ha : a ∈ written) :
    after.get? a.1 = some a.2 := by
  rw [h.store_eq]
  exact NameMap.get?_insertAll_of_mem nodup ha

theorem Progress.get?_other (h : Progress t extension Sink.memory x store ds written after)
    {name : String} (hname : name ∉ written.map (·.1)) : after.get? name = store.get? name := by
  rw [h.store_eq]
  exact NameMap.get?_insertAll_of_not_mem hname

end Writing

theorem progress_of_ok {σ : Type} {g : Generator} {inputs : GenerationInputs} {sink : Sink σ}
    {store : σ} {report : GenerationReport}
    (h : (g.generate inputs sink store).result = .ok report) :
    ∃ x s t, Setup g inputs x s t ∧
      let run := g.generate inputs sink store
      let extension := Artifact.extension? g.options.fileExtension inputs.template.name
      Progress t extension sink x store s.dataTypes run.written run.store ∧
      report.artifacts = run.written.map (·.1) ∧
      run.written.map (·.1) = artifactNames extension s.dataTypes := by
  rcases setup_or_fails g inputs with ⟨e, fails⟩ | ⟨x, s, t, setup⟩
  · obtain ⟨stages, printed, exited, hrun⟩ := generate_of_fails g sink store fails
    rw [hrun] at h
    cases h
  · obtain ⟨progress, -, ends⟩ := writeArtifacts_progress t
      (Artifact.extension? g.options.fileExtension inputs.template.name) sink x store s.dataTypes
    rcases ends with ⟨hdone, hall⟩ | ⟨e, hstop, -⟩
    · have hrun := generate_of_done g sink store setup rfl hdone
      rw [hrun] at h
      cases h
      refine ⟨x, s, t, setup, ?_⟩
      rw [hrun]
      exact ⟨progress, rfl, progress.names_eq hall⟩
    · rw [generate_of_stop g sink store setup rfl hstop] at h
      cases h

/-- No artifact overwrites another. The artifacts of a run that is done are as many as the data types
and have different names; behind the run each of them is the text that its own data type renders to,
and every other name stands for what it stood for. -/
theorem generate_keeps_apart {g : Generator} {inputs : GenerationInputs} {store : NameMap String}
    {report : GenerationReport} (h : (g.generate inputs Sink.memory store).result = .ok report) :
    ∃ x s t, Setup g inputs x s t ∧
      let after := (g.generate inputs Sink.memory store).store
      report.artifacts = artifactNames
        (Artifact.extension? g.options.fileExtension inputs.template.name) s.dataTypes ∧
      report.artifacts.Nodup ∧
      (∀ i name, report.artifacts[i]? = some name →
        ∃ text, RendersTo t x s.dataTypes i (.ok text) ∧ after.get? name = some text) ∧
      ∀ name ∉ report.artifacts, after.get? name = store.get? name := by
  obtain ⟨x, s, t, setup, progress, hreport, hnames⟩ := progress_of_ok h
  have nodup : report.artifacts.Nodup := by
    rw [hreport, hnames]
    exact artifactNames_nodup _ (Schema.validate_eq_ok.mp setup.valid).1.nodup
  refine ⟨x, s, t, setup, hreport.trans hnames, nodup, fun i name hname => ?_, fun name hname => ?_⟩
  · rw [hreport, List.getElem?_map, Option.map_eq_some_iff] at hname
    obtain ⟨a, ha, rfl⟩ := hname
    exact ⟨a.2, progress.texts i a ha,
      progress.get?_written (hreport ▸ nodup) (List.mem_of_getElem? ha)⟩
  · exact progress.get?_other (hreport ▸ hname)

def letters : Source :=
  ⟨"letters.json", "\x7b\"dataTypes\": [\x7b\"name\": \"A\"\x7d, \x7b\"name\": \"A.b\"\x7d]\x7d"⟩

def kotlinClass : Source := ⟨"model.kt.tera", "class \x7b\x7b name \x7d\x7d"⟩

theorem generate_keeps_apart_of_letters :
    let store := (NameMap.empty.insert "A.kt" "class B").insert "readme" "letters"
    let run := (new ⟨false, none⟩).generate ⟨[letters], kotlinClass, []⟩ Sink.memory store
    ∃ report, run.result = .ok report ∧ report.artifacts = ["A.kt", "A.b.kt"] ∧
      report.artifacts.Nodup ∧ ∀ name ∉ report.artifacts, run.store.get? name = store.get? name := by
  intro store run
  let s : Schema := ⟨"", [.cls (.plain "A" []), .cls (.plain "A.b" [])]⟩
  let t : Template := ⟨"model.kt.tera", [.text "class ",
    .tag ⟨false, false⟩ (.output (.plain (.path "name")))], [], [], []⟩
  have hread : Document.read letters.name letters.contents = .ok (.object [("dataTypes",
      .array [.object [("name", .string "A")], .object [("name", .string "A.b")]])]) := by
    cbv
  have hparse : Document.parseAll false [letters] = .ok s := by
    simp only [Document.parseAll, List.mapM_cons, Document.parse, hread]
    rfl
  have consistent : s.Consistent Bridge.new.finish.registrations.predefined := by
    refine ⟨by decide, ?_⟩
    simp [s, DataType.referencedTypes, ClassType.plain]
  have hcompile : Renderer.compile kotlinClass = .ok t := by cbv
  have setup : Setup (new ⟨false, none⟩) ⟨[letters], kotlinClass, []⟩ Bridge.new.finish s t :=
    ⟨rfl, hparse, Schema.validate_of_consistent consistent, hcompile⟩
  have hdone (x : Extensions) :
      (writeArtifacts t (some "kt") Sink.memory x store s.dataTypes).error? = none := rfl
  have hrun : run = _ := generate_of_done (new ⟨false, none⟩) Sink.memory store setup rfl (hdone _)
  have hresult : run.result = .ok ⟨"", ["A.kt", "A.b.kt"]⟩ := by
    rw [hrun]
    rfl
  obtain ⟨x, s', t', -, -, nodup, -, frame⟩ := generate_keeps_apart hresult
  exact ⟨_, hresult, rfl, nodup, frame⟩

end Generator

end SchemaForge
