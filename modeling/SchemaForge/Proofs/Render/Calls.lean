import SchemaForge.Proofs.Template.Calls
import SchemaForge.Render.Renderer

/-! The calls of script filters and tags that rendering a data type makes, and which of them fail. -/

namespace SchemaForge

open Extension (Extensions host callTag)
open Extension.Extensions (ScriptState)
open Template (Template OutsideCall)

/-- A call fails if the filter or tag that extensions have registered does. -/
def Extension.Extensions.CallFails (x : Extensions) (context : Json.Value)
    (call : OutsideCall ScriptState) : Prop :=
  match call.callee with
  | .filter name v => ∃ binding e, x.registrations.filters.get? name = some binding ∧
    (binding.apply host call.found v).2 = .error e
  | .function name => ∃ function e, x.registrations.tags.get? name = some function ∧
    (callTag host call.found function context call.args).2 = .error e

namespace Renderer

variable (t : Template) (x : Extensions) (d : DataType)

def setting : Template.Setting ScriptState := 
  ⟨t, d.context, x.callbacks (.object d.context), x.system⟩

/-- The calls of filters and tags, in order. -/
def calls : List (OutsideCall ScriptState) := Template.calls (setting t x d) x.session

theorem render_session :
    (render t x d).1.session = (Template.render (setting t x d) x.session).1 := by
  unfold render setting
  dsimp only
  split <;> rfl

theorem render_registrations : (render t x d).1.registrations = x.registrations := by
  unfold render
  dsimp only
  split <;> rfl

theorem render_system : (render t x d).1.system = x.system := by
  unfold render
  dsimp only
  split <;> rfl

theorem render_scripts : (render t x d).1.scripts = x.scripts := by
  unfold render
  dsimp only
  split <;> rfl

/-- A data type renders to a text just when its template does, and else the failure names it. -/
theorem render_result : (render t x d).2 =
    (Template.render (setting t x d) x.session).2.mapError (.dataType d.name) := by
  unfold render setting
  dsimp only
  split <;> next h => rw [h]; rfl

theorem calls_lead : (x.callbacks (.object d.context)).Leads x.session (calls t x d)
    (render t x d).1.session := by
  rw [render_session]
  exact Template.calls_lead (setting t x d) x.session

end Renderer

end SchemaForge
