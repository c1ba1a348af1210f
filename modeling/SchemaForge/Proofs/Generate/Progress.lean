import SchemaForge.Generate.Generator
import SchemaForge.Proofs.Outcome
import SchemaForge.Proofs.Schema.TypeGraph

/-! How far a generation run comes. What lands is a prefix of the artifacts, each with the text that its
data type renders to behind the ones in front of it; the run is done just when that is all of them. -/

namespace SchemaForge.Generator

open Extension (Extensions Bridge)
open Template (Template)

def artifactNames (extension : Option String) (ds : List DataType) : List String :=
  ds.map fun d => Artifact.name d.name extension

/-- The extensions as rendering the first `i` data types leaves them. -/
def stateBefore (t : Template) (x : Extensions) (ds : List DataType) (i : Nat) : Extensions :=
  (ds.take i).foldl (fun x d => (Renderer.render t x d).1) x

/-- What the data type at an index renders to, those in front of it having been rendered. -/
def RendersTo (t : Template) (x : Extensions) (ds : List DataType) (i : Nat)
    (r : Except RenderError String) : Prop :=
  ∃ d, ds[i]? = some d ∧ (Renderer.render t (stateBefore t x ds i) d).2 = r

theorem stateBefore_zero (t : Template) (x : Extensions) (ds : List DataType) :
    stateBefore t x ds 0 = x := rfl

theorem stateBefore_cons (t : Template) (x : Extensions) (d : DataType) (ds : List DataType)
    (i : Nat) :
    stateBefore t x (d :: ds) (i + 1) = stateBefore t (Renderer.render t x d).1 ds i := rfl

theorem rendersTo_zero {t : Template} {x : Extensions} {d : DataType} {ds : List DataType}
    {r : Except RenderError String} :
    RendersTo t x (d :: ds) 0 r ↔ (Renderer.render t x d).2 = r := by
  simp [RendersTo, stateBefore_zero]

theorem rendersTo_succ {t : Template} {x : Extensions} {d : DataType} {ds : List DataType}
    {r : Except RenderError String} {i : Nat} :
    RendersTo t x (d :: ds) (i + 1) r ↔ RendersTo t (Renderer.render t x d).1 ds i r := by
  simp only [RendersTo, List.getElem?_cons_succ, stateBefore_cons]

theorem RendersTo.unique {t : Template} {x : Extensions} {ds : List DataType} {i : Nat}
    {r r' : Except RenderError String} (h : RendersTo t x ds i r) (h' : RendersTo t x ds i r') :
    r = r' := by
  obtain ⟨d, hd, rfl⟩ := h
  obtain ⟨d', hd', rfl⟩ := h'
  cases hd.symm.trans hd'
  rfl

theorem render_eq_error {t : Template} {x : Extensions} {d : DataType} {e : RenderError}
    (h : (Renderer.render t x d).2 = .error e) : ∃ cause, e = .dataType d.name cause := by
  unfold Renderer.render at h
  dsimp only at h
  split at h
  · cases h
  · exact ⟨_, (Except.error.inj h).symm⟩

section Writing

variable {σ : Type}

def landing (sink : Sink σ) (store : σ) (artifacts : List (String × String)) : Except String σ :=
  artifacts.foldlM (fun store a => sink.write store a.1 a.2) store

/-- Artifacts that have landed: those of the first data types, each with the text that its data type
renders to, and the store behind their writes. -/
structure Progress (t : Template) (extension : Option String) (sink : Sink σ) (x : Extensions)
    (store : σ) (ds : List DataType) (written : List (String × String)) (store' : σ) : Prop where
  names : written.map (·.1) = (artifactNames extension ds).take written.length
  texts : ∀ i a, written[i]? = some a → RendersTo t x ds i (.ok a.2)
  landed : landing sink store written = .ok store'

inductive StopsAt (t : Template) (extension : Option String) (sink : Sink σ) (x : Extensions)
    (ds : List DataType) (i : Nat) (store : σ) : GenerateError → Prop
  | render {d : DataType} {cause : Template.Failure} (here : ds[i]? = some d)
      (fails : RendersTo t x ds i (.error (.dataType d.name cause))) :
      StopsAt t extension sink x ds i store (.render (.dataType d.name cause))
  | write {name text reason : String} (here : (artifactNames extension ds)[i]? = some name)
      (renders : RendersTo t x ds i (.ok text)) (refused : sink.write store name text = .error reason) :
      StopsAt t extension sink x ds i store (.output name reason)

def Flawless (t : Template) (extension : Option String) (sink : Sink σ) (x : Extensions)
    (store : σ) (ds : List DataType) : Prop :=
  ∃ written store', written.length = ds.length ∧
    Progress t extension sink x store ds written store'

variable {t : Template} {extension : Option String} {sink : Sink σ} {x : Extensions}
  {store store' : σ} {d : DataType} {ds : List DataType} {written : List (String × String)}
  {text : String} {e : GenerateError}

theorem Progress.nil : Progress t extension sink x store ds [] store := ⟨rfl, nofun, rfl⟩

theorem Progress.cons {x' : Extensions} {store₁ : σ} (hrender : Renderer.render t x d = (x', .ok text))
    (hwrite : sink.write store (Artifact.name d.name extension) text = .ok store₁)
    (h : Progress t extension sink x' store₁ ds written store') :
    Progress t extension sink x store (d :: ds)
      ((Artifact.name d.name extension, text) :: written) store' := by
  refine ⟨?_, ?_, ?_⟩
  · simp only [List.map_cons, h.names, artifactNames, List.length_cons, List.take_succ_cons]
  · intro i a ha
    cases i with
    | zero =>
      cases ha
      exact rendersTo_zero.mpr (by rw [hrender])
    | succ i =>
      rw [rendersTo_succ, hrender]
      exact h.texts i a ha
  · exact Outcome.foldlM_cons_eq_ok.mpr ⟨store₁, hwrite, h.landed⟩

theorem StopsAt.cons {x' : Extensions} {i : Nat}
    (hrender : Renderer.render t x d = (x', .ok text))
    (h : StopsAt t extension sink x' ds i store e) :
    StopsAt t extension sink x (d :: ds) (i + 1) store e := by
  cases h with
  | render here fails =>
    refine .render here ?_
    rw [rendersTo_succ, hrender]
    exact fails
  | write here renders refused =>
    refine .write here ?_ refused
    rw [rendersTo_succ, hrender]
    exact renders

theorem StopsAt.lt {i : Nat} (h : StopsAt t extension sink x ds i store e) : i < ds.length := by
  cases h with
  | render here fails => exact (List.getElem?_eq_some_iff.mp here).1
  | write here renders refused =>
    obtain ⟨d, hd, -⟩ := renders
    exact (List.getElem?_eq_some_iff.mp hd).1

theorem writeArtifacts_progress (t : Template) (extension : Option String) (sink : Sink σ)
    (x : Extensions) (store : σ) (ds : List DataType) :
    let w := writeArtifacts t extension sink x store ds
    Progress t extension sink x store ds w.artifacts w.store ∧
    w.extensions = stateBefore t x ds (w.artifacts.length + 1) ∧
    ((w.error? = none ∧ w.artifacts.length = ds.length) ∨
      ∃ e, w.error? = some e ∧
        StopsAt t extension sink x ds w.artifacts.length w.store e) := by
  induction ds generalizing x store with
  | nil => exact ⟨.nil, rfl, .inl ⟨rfl, rfl⟩⟩
  | cons d ds ih =>
    rw [writeArtifacts]
    cases hrender : Renderer.render t x d with
    | mk x' r =>
      have hstate : x' = stateBefore t x (d :: ds) 1 := by
        rw [stateBefore_cons, hrender, stateBefore_zero]
      cases r with
      | error e =>
        obtain ⟨cause, rfl⟩ := render_eq_error (congrArg Prod.snd hrender)
        refine ⟨.nil, hstate, .inr ⟨_, rfl, .render rfl ?_⟩⟩
        exact rendersTo_zero.mpr (congrArg Prod.snd hrender)
      | ok text =>
        dsimp only
        cases hwrite : sink.write store (Artifact.name d.name extension) text with
        | error reason =>
          refine ⟨.nil, hstate, .inr ⟨_, rfl, .write rfl ?_ hwrite⟩⟩
          exact rendersTo_zero.mpr (congrArg Prod.snd hrender)
        | ok store₁ =>
          obtain ⟨progress, hextensions, ends⟩ := ih x' store₁
          refine ⟨progress.cons hrender hwrite, ?_, ?_⟩
          · rw [List.length_cons, stateBefore_cons, hrender]
            exact hextensions
          · rcases ends with ⟨hnone, hall⟩ | ⟨e, he, stops⟩
            · exact .inl ⟨hnone, congrArg (· + 1) hall⟩
            · exact .inr ⟨e, he, stops.cons hrender⟩

theorem Progress.name_at (h : Progress t extension sink x store ds written store') {i : Nat}
    {a : String × String} (ha : written[i]? = some a) :
    (artifactNames extension ds)[i]? = some a.1 := by
  have hi : i < written.length := (List.getElem?_eq_some_iff.mp ha).1
  rw [← List.getElem?_take_of_lt hi, ← h.names, List.getElem?_map, ha]
  rfl

theorem Progress.agree {written' : List (String × String)} {store₂ : σ}
    (h : Progress t extension sink x store ds written store')
    (h' : Progress t extension sink x store ds written' store₂) {i : Nat} {a b : String × String}
    (ha : written[i]? = some a) (hb : written'[i]? = some b) : a = b := by
  have names : a.1 = b.1 := Option.some.inj ((h.name_at ha).symm.trans (h'.name_at hb))
  have texts : a.2 = b.2 := Except.ok.inj ((h.texts i a ha).unique (h'.texts i b hb))
  exact Prod.ext names texts

theorem Progress.eq_take {all : List (String × String)} {last : σ}
    (h : Progress t extension sink x store ds written store')
    (whole : Progress t extension sink x store ds all last) (hle : written.length ≤ all.length) :
    written = all.take written.length := by
  apply List.ext_getElem (by rw [List.length_take, Nat.min_eq_left hle])
  intro i hi hi'
  rw [List.getElem_take]
  exact h.agree whole (List.getElem?_eq_getElem hi)
    (List.getElem?_eq_getElem (Nat.lt_of_lt_of_le hi hle))

theorem StopsAt.not_flawless (h : Progress t extension sink x store ds written store')
    (stops : StopsAt t extension sink x ds written.length store' e) :
    ¬ Flawless t extension sink x store ds := by
  rintro ⟨all, last, hall, whole⟩
  -- What a flawless run lands starts with what has landed and goes on behind it.
  have hlt : written.length < all.length := hall ▸ stops.lt
  have hget := List.getElem?_eq_getElem hlt
  have hsplit : all = written ++ all[written.length] :: all.drop (written.length + 1) := by
    rw [← List.drop_eq_getElem_cons hlt]
    conv => lhs; rw [← List.take_append_drop written.length all]
    rw [← h.eq_take whole (Nat.le_of_lt hlt)]
  have hlanded := whole.landed
  rw [hsplit, landing, List.foldlM_append] at hlanded
  obtain ⟨store₁, hfirst, hrest⟩ := Outcome.bind_eq_ok.mp hlanded
  cases h.landed.symm.trans hfirst
  obtain ⟨store₂, hwrite, -⟩ := Outcome.foldlM_cons_eq_ok.mp hrest
  have htext := whole.texts _ _ hget
  cases stops with
  | render here fails => cases fails.unique htext
  | write here renders refused =>
    cases renders.unique htext
    cases here.symm.trans (whole.name_at hget)
    cases refused.symm.trans hwrite

end Writing

/-- What a run starts to write from: the extensions, the schema and the template. -/
structure Setup (g : Generator) (inputs : GenerationInputs) (x : Extensions) (s : Schema)
    (t : Template) : Prop where
  loads : Extensions.load inputs.extensions g.system = .ok x
  parses : Document.parseAll g.options.alphabetize inputs.schemas = .ok s
  valid : s.validate x.registrations.predefined = .ok ⟨s⟩
  compiles : Renderer.compile inputs.template = .ok t

inductive SetupFails (g : Generator) (inputs : GenerationInputs) : GenerateError → Prop
  | load {e : Extension.ExtensionError}
      (fails : Extensions.load inputs.extensions g.system = .error e) :
      SetupFails g inputs (.extension e)
  | parse {x : Extensions} {e : SchemaError}
      (loads : Extensions.load inputs.extensions g.system = .ok x)
      (fails : Document.parseAll g.options.alphabetize inputs.schemas = .error e) :
      SetupFails g inputs (.schema e)
  | validate {x : Extensions} {s : Schema} {e : ValidationError}
      (loads : Extensions.load inputs.extensions g.system = .ok x)
      (parses : Document.parseAll g.options.alphabetize inputs.schemas = .ok s)
      (fails : s.validate x.registrations.predefined = .error e) :
      SetupFails g inputs (.validation e)
  | compile {x : Extensions} {s : Schema} {e : RenderError}
      (loads : Extensions.load inputs.extensions g.system = .ok x)
      (parses : Document.parseAll g.options.alphabetize inputs.schemas = .ok s)
      (valid : s.validate x.registrations.predefined = .ok ⟨s⟩)
      (fails : Renderer.compile inputs.template = .error e) :
      SetupFails g inputs (.render e)

variable {inputs : GenerationInputs}

theorem setup_or_fails (g : Generator) (inputs : GenerationInputs) :
    (∃ e, SetupFails g inputs e) ∨ ∃ x s t, Setup g inputs x s t := by
  cases hload : Extensions.load inputs.extensions g.system with
  | error e => exact .inl ⟨_, .load hload⟩
  | ok x =>
    cases hparse : Document.parseAll g.options.alphabetize inputs.schemas with
    | error e => exact .inl ⟨_, .parse hload hparse⟩
    | ok s =>
      cases hvalid : s.validate x.registrations.predefined with
      | error e => exact .inl ⟨_, .validate hload hparse hvalid⟩
      | ok v =>
        rw [(Schema.validate_eq_ok.mp hvalid).2] at hvalid
        cases hcompile : Renderer.compile inputs.template with
        | error e => exact .inl ⟨_, .compile hload hparse hvalid hcompile⟩
        | ok t => exact .inr ⟨x, s, t, hload, hparse, hvalid, hcompile⟩

section Checking

variable {system : System} (options : GeneratorOptions) (schemas : List Source)
  {extensions : List Source}

theorem loadAndCheck_of_load {x : Extensions} (h : Extensions.load extensions system = .ok x) :
    (loadAndCheck system options schemas extensions).result = (check options schemas x).2 ∧
      (loadAndCheck system options schemas extensions).stages =
        .loadingExtensions :: (check options schemas x).1 := by
  unfold Extensions.load at h
  unfold loadAndCheck
  split at h
  · next b hb =>
    cases h
    rw [hb]
    exact ⟨rfl, rfl⟩
  · cases h

theorem loadAndCheck_of_load_error {e : Extension.ExtensionError}
    (h : Extensions.load extensions system = .error e) :
    (loadAndCheck system options schemas extensions).result = .error (.extension e) ∧
      (loadAndCheck system options schemas extensions).stages = [.loadingExtensions] := by
  unfold Extensions.load at h
  unfold loadAndCheck
  split at h
  · cases h
  · next b e' hb =>
    cases h
    rw [hb]
    exact ⟨rfl, rfl⟩

end Checking

section Runs

variable {σ : Type} (g : Generator) (sink : Sink σ) (store : σ)

theorem generate_of_fails {e : GenerateError} (h : SetupFails g inputs e) :
    ∃ stages printed exited, g.generate inputs sink store =
      ⟨{ g with stage := .failed }, store, [], stages, printed, exited, .error e⟩ := by
  cases h with
  | load fails =>
    simp only [generate, loadAndCheck_of_load_error g.options inputs.schemas fails]
    exact ⟨_, _, _, rfl⟩
  | parse loads fails =>
    simp only [generate, loadAndCheck_of_load g.options inputs.schemas loads, check, fails]
    exact ⟨_, _, _, rfl⟩
  | validate loads parses fails =>
    simp only [generate, loadAndCheck_of_load g.options inputs.schemas loads, check, parses, fails]
    exact ⟨_, _, _, rfl⟩
  | compile loads parses valid fails =>
    simp only [generate, loadAndCheck_of_load g.options inputs.schemas loads, check, parses, valid,
      writeAll, fails]
    exact ⟨_, _, _, rfl⟩

section Setup

variable {x : Extensions} {s : Schema} {t : Template} {w : Written σ}

def writingStages (s : Schema) (begun : Nat) (last : Stage) : List Stage :=
  [.loadingExtensions, .parsingSchemas, .validating] ++
    renderingStages s.dataTypes.length begun ++ [last]

theorem generate_of_done (h : Setup g inputs x s t)
    (hw : writeArtifacts t (Artifact.extension? g.options.fileExtension inputs.template.name)
      sink x store s.dataTypes = w) (hdone : w.error? = none) :
    g.generate inputs sink store =
      ⟨{ g with stage := .done }, w.store, w.artifacts, writingStages s w.begun .done,
        w.extensions.printed, w.extensions.exited, .ok ⟨s.version, w.artifacts.map (·.1)⟩⟩ := by
  simp only [generate, loadAndCheck_of_load g.options inputs.schemas h.loads, check, h.parses,
    h.valid, writeAll, h.compiles, hw, hdone]
  rfl

theorem generate_of_stop (h : Setup g inputs x s t)
    (hw : writeArtifacts t (Artifact.extension? g.options.fileExtension inputs.template.name)
      sink x store s.dataTypes = w) {e : GenerateError} (hstop : w.error? = some e) :
    g.generate inputs sink store =
      ⟨{ g with stage := .failed }, w.store, w.artifacts, writingStages s w.begun .failed,
        w.extensions.printed, w.extensions.exited, .error e⟩ := by
  simp only [generate, loadAndCheck_of_load g.options inputs.schemas h.loads, check, h.parses,
    h.valid, writeAll, h.compiles, hw, hstop]
  rfl

end Setup

/-- A run either fails before anything is written, or what it has written is a prefix of the artifacts
of its data types: all of them, and then the run is done; or those in front of the first that does not
render or is refused, and then that failure is what the run has come to. -/
theorem generate_writes_prefix (inputs : GenerationInputs) :
    let run := g.generate inputs sink store
    let extension := Artifact.extension? g.options.fileExtension inputs.template.name
    ((∃ e, SetupFails g inputs e) ∨ ∃ x s t, Setup g inputs x s t) ∧
    (∀ e, SetupFails g inputs e → run.written = [] ∧ run.store = store ∧
      run.result = .error e ∧ run.generator.stage = .failed) ∧
    ∀ x s t, Setup g inputs x s t →
      Progress t extension sink x store s.dataTypes run.written run.store ∧
      run.printed = (stateBefore t x s.dataTypes (run.written.length + 1)).printed ∧
      ((Flawless t extension sink x store s.dataTypes ∧
          run.written.length = s.dataTypes.length ∧
          run.result = .ok ⟨s.version, artifactNames extension s.dataTypes⟩ ∧
          run.generator.stage = .done) ∨
        (¬ Flawless t extension sink x store s.dataTypes ∧
          ∃ e, StopsAt t extension sink x s.dataTypes run.written.length run.store e ∧
            run.result = .error e ∧ run.generator.stage = .failed)) := by
  intro run extension
  refine ⟨setup_or_fails g inputs, fun e h => ?_, fun x s t h => ?_⟩
  · obtain ⟨stages, printed, exited, hrun⟩ := generate_of_fails g sink store h
    have hrun : run = _ := hrun
    rw [hrun]
    exact ⟨rfl, rfl, rfl, rfl⟩
  · obtain ⟨progress, hextensions, ends⟩ := writeArtifacts_progress t extension sink x store
      s.dataTypes
    rcases ends with ⟨hdone, hall⟩ | ⟨e, hstop, stops⟩
    · have hrun : run = _ := generate_of_done g sink store h rfl hdone
      have hnames := progress.names
      rw [hall, artifactNames, ← List.length_map fun d : DataType => Artifact.name d.name extension,
        List.take_length] at hnames
      rw [hrun]
      refine ⟨progress, by rw [hextensions], .inl ⟨⟨_, _, hall, progress⟩, hall, ?_, rfl⟩⟩
      rw [hnames]
      rfl
    · have hrun : run = _ := generate_of_stop g sink store h rfl hstop
      rw [hrun]
      exact ⟨progress, by rw [hextensions],
        .inr ⟨stops.not_flawless progress, e, stops, rfl, rfl⟩⟩

end Runs

end SchemaForge.Generator
