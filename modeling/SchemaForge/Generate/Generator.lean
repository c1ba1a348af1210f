import SchemaForge.Generate.Artifact
import SchemaForge.Generate.Sink
import SchemaForge.Generate.Stage
import SchemaForge.Render.Renderer
import SchemaForge.Schema.Registry

/-! A generation run: load the extensions, parse and check the documents, compile the template, then
render and write one artifact for each data type. The first failure ends the run; what has been
written stays written. A run is in one stage after the other. -/

namespace SchemaForge

open Extension (Bridge Extensions ExtensionError)
open Template (Template)
open Text.Utf8 (Bytes)

inductive GenerateError where
  | extension (e : ExtensionError)
  | schema (e : SchemaError)
  | validation (e : ValidationError)
  | render (e : RenderError)
  | output (artifact message : String)
  deriving Inhabited

namespace GenerateError

def message : GenerateError → String
  | .extension e => e.message
  | .schema e => e.message
  | .validation e => e.message
  | .render e => e.message
  | .output artifact message => s!"cannot write artifact '{artifact}': {message}"

def code : GenerateError → String
  | .extension e => e.code
  | .schema e => e.code
  | .validation e => e.code
  | .render e => e.code
  | .output .. => "dtgen::output::write"

def help? : GenerateError → Option String
  | .extension e => some e.help
  | .schema e => e.help?
  | .validation e => some e.help
  | .render e => e.help?
  | .output .. => none

def isFatalExtension : GenerateError → Bool
  | .extension _ => true
  | _ => false

end GenerateError

structure GeneratorOptions where
  alphabetize : Bool
  /-- The extension of artifacts; without it the template's name implies one. -/
  fileExtension : Option String
  deriving DecidableEq, Repr, Inhabited

structure GenerationInputs where
  schemas : List Source
  template : Source
  extensions : List Source

structure Prepared where
  extensions : Extensions
  schema : ValidatedSchema

structure GenerationReport where
  version : String
  artifacts : List String
  deriving DecidableEq, Repr, Inhabited

structure Generator where
  options : GeneratorOptions
  stage : Stage
  system : System

/-- What loading and checking come to, with the stages on the way, what scripts have printed meanwhile
and the code with which one has ended the program. -/
structure Preparation where
  stages : List Stage
  printed : List Bytes
  exited : Option Int
  result : Except GenerateError Prepared

/-- What writing comes to: the store behind it, the artifacts that have landed, how many data types have
had their turn, the extensions as their last call has left them, and the error that has ended it. -/
structure Written (σ : Type) where
  store : σ
  artifacts : List (String × String)
  begun : Nat
  extensions : Extensions
  error? : Option GenerateError

structure Run (σ : Type) where
  generator : Generator
  store : σ
  written : List (String × String)
  stages : List Stage
  printed : List Bytes
  exited : Option Int
  result : Except GenerateError GenerationReport

namespace Generator

def new (options : GeneratorOptions) (system : System := .bare) : Generator := ⟨options, .idle, system⟩

def check (options : GeneratorOptions) (schemas : List Source) (x : Extensions) :
    List Stage × Except GenerateError Prepared :=
  match Document.parseAll options.alphabetize schemas with
  | .error e => ([.parsingSchemas], .error (.schema e))
  | .ok s =>
    match s.validate x.registrations.predefined with
    | .error e => ([.parsingSchemas, .validating], .error (.validation e))
    | .ok s => ([.parsingSchemas, .validating], .ok ⟨x, s⟩)

def loadAndCheck (system : System) (options : GeneratorOptions) (schemas extensions : List Source) :
    Preparation :=
  let (b, loaded) := (Bridge.new system).loadAll extensions
  let (stages, result) := match loaded with
    | .error e => ([], .error (.extension e))
    | .ok _ => check options schemas b.finish
  ⟨.loadingExtensions :: stages, b.printed, b.exited, result⟩

def prepare (g : Generator) (schemas extensions : List Source) : Generator × Preparation :=
  let p := loadAndCheck g.system g.options schemas extensions
  let stage : Stage := match p.result with
    | .ok _ => .validated
    | .error _ => .failed
  ({ g with stage }, { p with stages := p.stages ++ [stage] })

def writeArtifacts {σ : Type} (t : Template) (extension : Option String) (sink : Sink σ)
    (x : Extensions) (store : σ) : List DataType → Written σ
  | [] => ⟨store, [], 0, x, none⟩
  | d :: rest =>
    match Renderer.render t x d with
    | (x, .error e) => ⟨store, [], 1, x, some (.render e)⟩
    | (x, .ok text) =>
      let name := Artifact.name d.name extension
      match sink.write store name text with
      | .error message => ⟨store, [], 1, x, some (.output name message)⟩
      | .ok store =>
        let w := writeArtifacts t extension sink x store rest
        { w with artifacts := (name, text) :: w.artifacts, begun := w.begun + 1 }

def writeAll {σ : Type} (options : GeneratorOptions) (p : Prepared) (template : Source)
    (sink : Sink σ) (store : σ) : Written σ :=
  match Renderer.compile template with
  | .error e => ⟨store, [], 0, p.extensions, some (.render e)⟩
  | .ok t =>
    writeArtifacts t (Artifact.extension? options.fileExtension template.name) sink p.extensions
      store p.schema.schema.dataTypes

def renderingStages (total begun : Nat) : List Stage :=
  (List.range (begun + 1)).map fun current => .rendering current total

def generate {σ : Type} (g : Generator) (inputs : GenerationInputs) (sink : Sink σ) (store : σ) :
    Run σ :=
  let p := loadAndCheck g.system g.options inputs.schemas inputs.extensions
  match p.result with
  | .error e =>
    ⟨{ g with stage := .failed }, store, [], p.stages ++ [.failed], p.printed, p.exited, .error e⟩
  | .ok prepared =>
    let w := writeAll g.options prepared inputs.template sink store
    let rendering := renderingStages prepared.schema.schema.dataTypes.length w.begun
    let ending (stage : Stage) (result : Except GenerateError GenerationReport) : Run σ :=
      ⟨{ g with stage }, w.store, w.artifacts, p.stages ++ rendering ++ [stage],
        w.extensions.printed, w.extensions.exited, result⟩
    match w.error? with
    | some e => ending .failed (.error e)
    | none => ending .done (.ok ⟨prepared.schema.schema.version, w.artifacts.map (·.1)⟩)

end Generator

end SchemaForge
