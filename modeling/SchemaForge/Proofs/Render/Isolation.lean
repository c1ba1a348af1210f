import SchemaForge.Proofs.Generate.Progress
import SchemaForge.Proofs.NameMap
import SchemaForge.Proofs.Render.Calls

/-! Rendering where scripts have registered no filter and no tag. Nothing that a template can name then
leads to the script state, so that every data type renders as it would with no other data types and no
scripts at all. The functions that templates always know compute from their arguments alone. -/

namespace SchemaForge

namespace Template

variable {σ : Type}

namespace Callbacks

structure Idle (c : Callbacks σ) : Prop where
  filters : ∀ name, c.filter? name = Option.none
  functions : ∀ name, c.function? name = Option.none

def none : Callbacks Unit := ⟨fun _ => Option.none, fun _ => Option.none⟩

def unmoved (outside : σ) : Render.Link σ Unit :=
  ⟨fun s _ => s = outside, fun s _ => s = outside, fun _ _ h => h⟩

theorem Idle.alike {c : Callbacks σ} (idle : c.Idle) (outside : σ) : c.Alike (unmoved outside) none where
  filters name := by
    unfold FilterAlike
    rw [idle.filters name]
    exact .none
  functions name := by
    unfold FunctionAlike
    rw [idle.functions name]
    exact .none

end Callbacks

/-- What an idle template renders to does not depend on the state outside, which it leaves as it is. -/
theorem render_idle (st : Setting σ) (idle : st.callbacks.Idle) (outside : σ) :
    render st outside = (outside, (render (st.withCallbacks .none) ()).2) := by
  have tight : (Callbacks.unmoved outside).Tight := fun _ _ h => h
  have ends := render_alike (idle.alike outside) (.inl tight) (t := ()) rfl
  exact Prod.ext (Render.Link.behind_going tight ends.2) ends.1

end Template

open Extension (Extensions Bridge)
open Template (Template)

/-- No script has registered a filter or a tag, whatever else scripts have done. -/
structure Extension.Extensions.Bare (x : Extensions) : Prop where
  filters : x.registrations.filters.isEmpty = true
  tags : x.registrations.tags.isEmpty = true

theorem Extension.Extensions.none_system (system : System) : (Extensions.none system).system = system :=
  rfl

theorem Extension.Extensions.none_bare (system : System) : (Extensions.none system).Bare := ⟨rfl, rfl⟩

theorem Extension.Extensions.Bare.idle {x : Extensions} (bare : x.Bare) (context : Json.Value) :
    (x.callbacks context).Idle where
  filters name := Option.map_eq_none_iff.mpr (NameMap.get?_of_isEmpty bare.filters name)
  functions name := Option.map_eq_none_iff.mpr (NameMap.get?_of_isEmpty bare.tags name)

namespace Renderer

/-- What a data type renders to by itself. -/
def alone (system : System) (t : Template) (d : DataType) : Except RenderError String :=
  (Template.render ⟨t, d.context, .none, system⟩ ()).2.mapError (.dataType d.name)

theorem render_bare {x : Extensions} (bare : x.Bare) (t : Template) (d : DataType) :
    render t x d = (x, alone x.system t d) := by
  have idle : Template.render ⟨t, d.context, x.callbacks (.object d.context), x.system⟩ x.session =
      (x.session, (Template.render ⟨t, d.context, .none, x.system⟩ ()).2) :=
    Template.render_idle _ (bare.idle (.object d.context)) x.session
  unfold render alone
  dsimp only
  rw [idle]
  cases (Template.render ⟨t, d.context, .none, x.system⟩ ()).2 <;> rfl

end Renderer

namespace Generator

theorem stateBefore_bare {x : Extensions} (bare : x.Bare) (t : Template) (ds : List DataType) (i : Nat) :
    stateBefore t x ds i = x := by
  unfold stateBefore
  induction ds.take i with
  | nil => rfl
  | cons d rest ih => rw [List.foldl_cons, Renderer.render_bare bare, ih]

theorem rendersTo_bare {x : Extensions} (bare : x.Bare) {t : Template} {ds : List DataType} {i : Nat}
    {r : Except RenderError String} :
    RendersTo t x ds i r ↔ ∃ d, ds[i]? = some d ∧ Renderer.alone x.system t d = r := by
  unfold RendersTo
  rw [stateBefore_bare bare]
  simp only [Renderer.render_bare bare]

/-- Without filters and tags from scripts, no rendering is felt by another. However many data types have
been rendered or have failed to, the script state is what it was; what one of them comes to is what it
comes to by itself, at any place of any other list of data types and with any other such scripts on the
same computer. -/
theorem bare_renderings_isolated {x x' : Extensions} (bare : x.Bare) (bare' : x'.Bare) (t : Template)
    (ds ds' : List DataType) :
    (∀ i, stateBefore t x ds i = x) ∧
    (∀ i d, ds[i]? = some d → ∀ r, RendersTo t x ds i r ↔ Renderer.alone x.system t d = r) ∧
    (x.system = x'.system →
      ∀ i j, ds[i]? = ds'[j]? → ∀ r, RendersTo t x ds i r ↔ RendersTo t x' ds' j r) := by
  refine ⟨stateBefore_bare bare t ds, fun i d hd r => ?_, fun system i j same r => ?_⟩
  · rw [rendersTo_bare bare, hd]
    simp
  · rw [rendersTo_bare bare, rendersTo_bare bare', same, system]

def counting : Source := ⟨"types.lua", "registerPredefinedTypes(\x7b'Int'\x7d) count = 1"⟩

/-- An enum has no properties, so that a template that goes through them fails. -/
def unlisted : DataType := .enum (.plain "E" "Int" [])

def listed : DataType := .cls (.plain "A" [⟨"x", ⟨"Int", false, false⟩, none, []⟩])

/-- Behind a data type that fails and with a script in front, and alone without any. -/
theorem bare_renderings_isolated_of_failure :
    let x := (Bridge.new.load counting).1.finish
    let loop : Template.Region := .loop none "p" (.plain (.path "properties")) none
    let t : Template := ⟨"t.txt", [.region ⟨false, false⟩ loop
      [.tag ⟨false, false⟩ (.output (.plain (.path "p.dataType")))] ⟨false, false⟩], [], [], []⟩
    x.Bare ∧ (Extensions.none x.system).Bare ∧ stateBefore t x [unlisted, listed] 1 = x ∧
      (Renderer.render t x unlisted).2.isOk = false ∧
      RendersTo t (Extensions.none x.system) [listed] 0 (.ok "Int") ∧
      RendersTo t x [unlisted, listed] 1 (.ok "Int") := by
  intro x loop t
  have bare : x.Bare := ⟨by decide +kernel, by decide +kernel⟩
  have bare' : (Extensions.none x.system).Bare := Extensions.none_bare x.system
  have isolated := bare_renderings_isolated bare bare' t [unlisted, listed] [listed]
  have same : x.system = (Extensions.none x.system).system := (Extensions.none_system x.system).symm
  have fails : (Renderer.render t x unlisted).2.isOk = false := by decide +kernel
  have text : (Renderer.render t (Extensions.none x.system) listed).2.toOption = some "Int" := by
    decide +kernel
  have renders : RendersTo t (Extensions.none x.system) [listed] 0 (.ok "Int") :=
    rendersTo_zero.mpr (Outcome.toOption_eq_some.mp text)
  exact ⟨bare, bare', isolated.1 1, fails, renders, (isolated.2.2 same 1 0 rfl _).mpr renders⟩

end Generator

end SchemaForge
