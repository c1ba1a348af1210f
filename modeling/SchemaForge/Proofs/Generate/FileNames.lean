import Mathlib
import SchemaForge.Proofs.FilePath
import SchemaForge.Proofs.Generate.Apart
import SchemaForge.Proofs.Schema.WellFormed

/-! Artifacts as files of one directory. The name that a run hands to its sink is never empty and never
leads into a directory, as neither names of data types nor extensions hold a slash. It is a file's name but
for one case: a data type may be named by a single dot, and with nothing behind it that means the directory
itself, or with an empty extension the one above. -/

namespace SchemaForge

/-- Neither a separator nor an end mark. -/
def Flat (cs : List Char) : Prop := ∀ c ∈ cs, c ≠ '/' ∧ c ≠ '\x00'

structure FileName (name : String) : Prop where
  named : name ≠ ""
  flat : Flat name.toList
  notHere : name ≠ "."
  notAbove : name ≠ ".."

namespace Artifact

theorem mem_of_mem_dropTemplateSuffix {name : String} {c : Char}
    (h : c ∈ (dropTemplateSuffix name).toList) : c ∈ name.toList := by
  unfold dropTemplateSuffix at h
  dsimp only at h
  split at h
  · rw [String.toList_ofList] at h
    exact List.mem_of_mem_take h
  · exact h

theorem impliedExtension?_flat {template extension : String} (unended : '\x00' ∉ template.toList)
    (h : impliedExtension? template = some extension) : Flat extension.toList := by
  intro c hc
  obtain ⟨drawn, noSlash⟩ := FilePath.drawn_extension? h c hc
  refine ⟨noSlash, ?_⟩
  rintro rfl
  exact unended (mem_of_mem_dropTemplateSuffix drawn)

theorem configuredExtension?_flat {configured extension : String} (flat : Flat configured.toList)
    (h : configuredExtension? configured = some extension) : Flat extension.toList := by
  unfold configuredExtension? at h
  split at h
  · cases h
  · cases h
    rw [String.toList_ofList]
    exact fun c hc => flat c ((List.dropWhile_subset _) hc)

theorem extension?_flat {configured : Option String} {template extension : String}
    (unended : '\x00' ∉ template.toList) (flat : ∀ text ∈ configured, Flat text.toList)
    (h : extension? configured template = some extension) : Flat extension.toList := by
  unfold extension? at h
  split at h
  · exact configuredExtension?_flat (flat _ rfl) h
  · exact impliedExtension?_flat unended h

section Names

variable {dataType : String} {extension : Option String}

theorem name_ne_empty (named : dataType ≠ "") : name dataType extension ≠ "" := by
  cases extension with
  | none => exact named
  | some ext => simp [name]

theorem name_flat (safe : SafeName dataType) (flat : ∀ ext ∈ extension, Flat ext.toList) :
    Flat (name dataType extension).toList := by
  have front : Flat dataType.toList := fun c hc => ⟨(safe.marks c hc).1, (safe.marks c hc).2.2⟩
  cases extension with
  | none => exact front
  | some ext =>
    intro c hc
    simp only [name, String.toList_append, List.mem_append] at hc
    rcases hc with (hc | hc) | hc
    · exact front c hc
    · obtain rfl : c = '.' := by simpa using hc
      decide
    · exact flat ext rfl c hc

theorem name_directory_iff (named : dataType ≠ "") (safe : SafeName dataType) :
    (name dataType extension = "." ∨ name dataType extension = "..") ↔
      dataType = "." ∧ extension.getD "" = "" := by
  have notAbove : dataType ≠ ".." := by
    rintro rfl
    exact safe.dots (List.infix_refl _)
  cases extension with
  | none => simp [name, notAbove]
  | some ext =>
    obtain ⟨c, cs, hcs⟩ := List.exists_cons_of_ne_nil (mt String.toList_eq_nil_iff.mp named)
    simp only [name, ← String.toList_inj, String.toList_append, hcs, Option.getD_some]
    cases cs <;> simp

theorem fileName_iff (named : dataType ≠ "") (safe : SafeName dataType)
    (flat : ∀ ext ∈ extension, Flat ext.toList) :
    FileName (name dataType extension) ↔ ¬ (dataType = "." ∧ extension.getD "" = "") := by
  rw [← name_directory_iff named safe, not_or]
  exact ⟨fun file => ⟨file.notHere, file.notAbove⟩,
    fun below => ⟨name_ne_empty named, name_flat safe flat, below.1, below.2⟩⟩

end Names

end Artifact

/-- The names that a run hands to its sink: those of the artifacts that land, and the one that the sink
refuses. -/
def Run.handed {σ : Type} (run : Run σ) : List String :=
  run.written.map (·.1) ++
    match run.result with
    | .error (.output artifact _) => [artifact]
    | _ => []

namespace Generator

open Extension (Bridge Extensions)
open Template (Template)

section Handing

variable {σ : Type} {g : Generator} {inputs : GenerationInputs} {sink : Sink σ} {store : σ}

theorem handed_artifact {name : String} (h : name ∈ (g.generate inputs sink store).handed) :
    ∃ x s t, Setup g inputs x s t ∧ name ∈ artifactNames
      (Artifact.extension? g.options.fileExtension inputs.template.name) s.dataTypes := by
  rcases setup_or_fails g inputs with ⟨e, fails⟩ | ⟨x, s, t, setup⟩
  · obtain ⟨stages, printed, exited, hrun⟩ := generate_of_fails g sink store fails
    rw [hrun] at h
    cases fails <;> simp [Run.handed] at h
  · refine ⟨x, s, t, setup, ?_⟩
    obtain ⟨progress, -, ends⟩ := writeArtifacts_progress t
      (Artifact.extension? g.options.fileExtension inputs.template.name) sink x store s.dataTypes
    rcases ends with ⟨hdone, -⟩ | ⟨e, hstop, stops⟩
    · rw [generate_of_done g sink store setup rfl hdone, Run.handed, List.append_nil, progress.names] at h
      exact List.mem_of_mem_take h
    · rw [generate_of_stop g sink store setup rfl hstop, Run.handed, List.mem_append, progress.names] at h
      rcases h with h | h
      · exact List.mem_of_mem_take h
      · cases stops with
        | render => cases h
        | write here =>
          obtain rfl := List.mem_singleton.mp h
          exact List.mem_of_getElem? here

/-- A run hands its sink names of files of one directory, unless it is given a data type that is named by a
single dot and no extension, or an empty one, to put behind it. -/
theorem handed_names_stay_inside (unended : '\x00' ∉ inputs.template.name.toList)
    (flat : ∀ text ∈ g.options.fileExtension, Flat text.toList) :
    let extension := Artifact.extension? g.options.fileExtension inputs.template.name
    ∀ name ∈ (g.generate inputs sink store).handed, name ≠ "" ∧ Flat name.toList ∧
      ∃ x s t d, Setup g inputs x s t ∧ d ∈ s.dataTypes ∧
        name = Artifact.name d.name extension ∧
        (FileName name ↔ ¬ (d.name = "." ∧ extension.getD "" = "")) := by
  intro extension name handed
  obtain ⟨x, s, t, setup, artifact⟩ := handed_artifact handed
  obtain ⟨d, hd, rfl⟩ := List.mem_map.mp artifact
  have wellFormed := Document.parseAll_wellFormed setup.parses d hd
  have flat : ∀ ext ∈ extension, Flat ext.toList := fun ext => Artifact.extension?_flat unended flat
  exact ⟨Artifact.name_ne_empty wellFormed.named, Artifact.name_flat wellFormed.safe flat,
    x, s, t, d, setup, hd, rfl, Artifact.fileName_iff wellFormed.named wellFormed.safe flat⟩

end Handing

def dot : Source := ⟨"dot.json", "\x7b\"dataTypes\": [\x7b\"name\": \".\"\x7d]\x7d"⟩

def dotRun (template : String) : Run (NameMap String) :=
  (new ⟨false, none⟩).generate ⟨[dot], ⟨template, "\x7b\x7b name \x7d\x7d"⟩, []⟩ Sink.memory .empty

def dotArtifact (template : String) : String := Artifact.name "." (Artifact.impliedExtension? template)

theorem dotRun_done (template : String) :
    (dotRun template).result = .ok ⟨"", [dotArtifact template]⟩ ∧
      (dotRun template).handed = [dotArtifact template] := by
  let s : Schema := ⟨"", [.cls (.plain "." [])]⟩
  let t : Template := ⟨template, [.tag ⟨false, false⟩ (.output (.plain (.path "name")))], [], [], []⟩
  have hread : Document.read dot.name dot.contents =
      .ok (.object [("dataTypes", .array [.object [("name", .string ".")]])]) := by
    cbv
  have hparse : Document.parseAll false [dot] = .ok s := by
    simp only [Document.parseAll, List.mapM_cons, Document.parse, hread]
    rfl
  have consistent : s.Consistent Bridge.new.finish.registrations.predefined := by
    refine ⟨by decide, ?_⟩
    simp [s, DataType.referencedTypes, ClassType.plain]
  have hcompile : Renderer.compile ⟨template, "\x7b\x7b name \x7d\x7d"⟩ = .ok t := by cbv
  have setup : Setup (new ⟨false, none⟩) ⟨[dot], ⟨template, "\x7b\x7b name \x7d\x7d"⟩, []⟩
      Bridge.new.finish s t :=
    ⟨rfl, hparse, Schema.validate_of_consistent consistent, hcompile⟩
  have hwritten (extension : Option String) (x : Extensions) :
      writeArtifacts t extension Sink.memory x .empty s.dataTypes =
        ⟨NameMap.empty.insert (Artifact.name "." extension) ".",
          [(Artifact.name "." extension, ".")], 1, x, none⟩ := rfl
  have hrun : dotRun template = _ :=
    generate_of_done (new ⟨false, none⟩) Sink.memory .empty setup (hwritten _ _) rfl
  rw [hrun]
  exact ⟨rfl, rfl⟩

theorem handed_names_stay_inside_of_dot :
    '\x00' ∉ ("model.kt.tera" : String).toList ∧ (∀ text ∈ (none : Option String), Flat text.toList) ∧
      "..kt" ∈ (dotRun "model.kt.tera").handed ∧ FileName "..kt" := by
  have extension : Artifact.impliedExtension? "model.kt.tera" = some "kt" := by decide
  have artifact : dotArtifact "model.kt.tera" = "..kt" := by rw [dotArtifact, extension]; rfl
  have here : "..kt" ∈ (dotRun "model.kt.tera").handed := by
    rw [(dotRun_done "model.kt.tera").2, artifact]
    exact List.mem_singleton_self _
  have unended : '\x00' ∉ ("model.kt.tera" : String).toList := by decide
  have unset : ∀ text ∈ (none : Option String), Flat text.toList := by simp
  obtain ⟨-, -, _, _, _, _, -, -, -, file⟩ := handed_names_stay_inside unended unset "..kt" here
  refine ⟨unended, unset, here, file.mpr ?_⟩
  rintro ⟨-, empty⟩
  replace empty : (Artifact.impliedExtension? "model.kt.tera").getD "" = "" := empty
  rw [extension] at empty
  exact absurd empty (by decide)

/-- Without an extension the dot is the directory itself, and with an empty one the directory above. -/
theorem dot_leads_to_directories :
    ((dotRun "model.tera").result = .ok ⟨"", ["."]⟩ ∧ (dotRun "model.tera").handed = ["."] ∧
      ¬ FileName ".") ∧
    (dotRun "model.").result = .ok ⟨"", [".."]⟩ ∧ (dotRun "model.").handed = [".."] ∧
      ¬ FileName ".." := by
  have absent : Artifact.impliedExtension? "model.tera" = none := by decide
  have empty : Artifact.impliedExtension? "model." = some "" := by decide
  have here : dotArtifact "model.tera" = "." := by rw [dotArtifact, absent]; rfl
  have above : dotArtifact "model." = ".." := by rw [dotArtifact, empty]; rfl
  obtain ⟨done, handed⟩ := dotRun_done "model.tera"
  obtain ⟨done', handed'⟩ := dotRun_done "model."
  rw [here] at done handed
  rw [above] at done' handed'
  exact ⟨⟨done, handed, fun file => file.notHere rfl⟩, done', handed', fun file => file.notAbove rfl⟩

end Generator

end SchemaForge
