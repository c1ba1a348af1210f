import SchemaForge.Extension.Callback
import SchemaForge.Render.Context
import SchemaForge.Template.Render

/-! Rendering data types through one template with the filters and tags of extensions. The script
state that one call leaves is the one that the next call finds. -/

namespace SchemaForge

open Template (Template Callbacks Failure CompileError)
open Extension (Extensions Registry FilterBinding)

inductive RenderError where
  | template (name : String) (cause : CompileError)
  | dataType (name : String) (cause : Failure)
  deriving Inhabited

namespace RenderError

def message : RenderError → String
  | .template name cause => s!"invalid template '{name}': " ++ cause.message
  | .dataType name cause => s!"failed to render '{name}': " ++ cause.message

def code : RenderError → String
  | .template .. => "dtgen::render::template"
  | .dataType .. => "dtgen::render::data_type"

def help? : RenderError → Option String
  | .template .. => none
  | .dataType .. =>
    some "check that the template only uses fields present in the data type context"

end RenderError

namespace Extension.Extensions

abbrev ScriptState := Script.Session Registry

def filter? (x : Extensions) (name : String) :
    Option (ScriptState → Json.Value → Template.Args →
      ScriptState × Except (List String) Json.Value) :=
  (x.registrations.filters.get? name).map fun binding s v _ =>
    match binding.apply host s v with
    | (s, .ok r) => (s, .ok r)
    | (s, .error e) => (s, .error (failureTexts s (filterFailure name) e))

def tag? (x : Extensions) (context : Json.Value) (name : String) :
    Option (ScriptState → Template.Args → ScriptState × Except (List String) Json.Value) :=
  (x.registrations.tags.get? name).map fun function s args =>
    match callTag host s function context args with
    | (s, .ok text) => (s, .ok (.string text))
    | (s, .error e) => (s, .error (failureTexts s (tagFailure name) e))

def callbacks (x : Extensions) (context : Json.Value) : Callbacks ScriptState :=
  ⟨x.filter?, x.tag? context⟩

end Extension.Extensions

namespace Renderer

def compile (source : Source) : Except RenderError Template :=
  match Template.compile source.name source.contents with
  | .ok t => .ok t
  | .error e => .error (.template source.name e)

/-- Render a data type; the extensions come back with the script state behind all calls. -/
def render (t : Template) (x : Extensions) (d : DataType) :
    Extensions × Except RenderError String :=
  let context := d.context
  let (session, r) := Template.render ⟨t, context, x.callbacks (.object context), x.system⟩ x.session
  let x := { x with session }
  match r with
  | .ok text => (x, .ok text)
  | .error e => (x, .error (.dataType d.name e))

end Renderer

end SchemaForge
