import Mathlib
import SchemaForge.Proofs.Outcome
import SchemaForge.Proofs.Render.Calls

/-! Calls of filters and tags that fail. Rendering fails with them wherever they stand, but for one
place: a condition that is a variable counts as false where a filter behind it fails. -/

namespace SchemaForge

open Extension (Bridge Extensions callTag host)
open Extension.Extensions (ScriptState)
open Template (Template OutsideCall)

/-- Nothing is called behind the name of a filter just when no script has registered it. -/
theorem Extension.Extensions.silent_filter_iff {x : Extensions} {context : Json.Value}
    {name : String} :
    (x.callbacks context).Silent (.filter name) ↔ x.registrations.filters.get? name = Option.none :=
  Option.map_eq_none_iff

theorem Extension.Extensions.callFails_iff {x : Extensions} {context : Json.Value}
    {call : OutsideCall ScriptState} (answered : (x.callbacks context).Answers call) :
    x.CallFails context call ↔ ∃ texts, call.result = .error texts := by
  unfold Template.Callbacks.Answers at answered
  unfold CallFails
  cases hcallee : call.callee with
  | filter name v =>
    rw [hcallee] at answered
    obtain ⟨f, hf, hcall⟩ := answered
    obtain ⟨binding, hbinding, rfl⟩ := Option.map_eq_some_iff.mp hf
    have hresult : _ = call.result := congrArg Prod.snd hcall
    rw [← hresult]
    simp only [hbinding]
    cases hr : binding.apply host call.found v with
    | mk s r => cases r <;> simp [hr]
  | function name =>
    rw [hcallee] at answered
    obtain ⟨f, hf, hcall⟩ := answered
    obtain ⟨function, hfunction, rfl⟩ := Option.map_eq_some_iff.mp hf
    have hresult : _ = call.result := congrArg Prod.snd hcall
    rw [← hresult]
    simp only [hfunction]
    cases hr : callTag host call.found function context call.args with
    | mk s r => cases r <;> simp [hr]

namespace Renderer

section

variable {t : Template} {x : Extensions} {d : DataType}

theorem exists_callFails_iff : (∃ call ∈ calls t x d, x.CallFails (.object d.context) call) ↔
    ∃ call ∈ calls t x d, call.result.isOk = false := by
  refine exists_congr fun call => and_congr_right fun hcall => ?_
  rw [Extensions.callFails_iff ((calls_lead t x d).answers call hcall)]
  cases call.result <;> simp [Except.isOk, Except.toBool]

/-- Where no condition that is a variable calls a filter or tag, no failure of one goes unnoticed:
rendering the data type fails with it. -/
theorem failing_call_fails_rendering
    (silent : t.SilentConditions (x.callbacks (.object d.context)))
    (fails : ∃ call ∈ calls t x d, x.CallFails (.object d.context) call) :
    ∃ cause, (render t x d).2 = .error (.dataType d.name cause) := by
  rw [render_result]
  cases hr : (Template.render (setting t x d) x.session).2 with
  | error cause => exact ⟨cause, rfl⟩
  | ok text =>
    obtain ⟨call, hcall, hfails⟩ := exists_callFails_iff.mp fails
    obtain ⟨v, hv⟩ := Template.calls_succeed silent hr call hcall
    rw [hv] at hfails
    cases hfails

end

def booming : Source := ⟨"boom.lua", "registerFilter('boom', 'boom', 'string')"⟩

def boomed : Extensions := (Bridge.new.load booming).1.finish

theorem load_booming : Extensions.load [booming] = .ok boomed := by
  have loads : (Bridge.new.load booming).2.isOk = true := by decide +kernel
  unfold boomed Extensions.load Bridge.loadAll
  cases h : (Bridge.new.load booming).2 with
  | ok _ => simp only [h, Bridge.loadAll]
  | error e => simp [h, Except.isOk, Except.toBool] at loads

/-- A class without properties. -/
def bare : DataType := .cls (.plain "A" [])

def boomName : Template.Expr := .mk (.path "name") false [.mk "boom" []]

def branching (condition : Template.Expr) (body : Template.Node) : Template :=
  ⟨"t.txt", [.branch [.mk ⟨false, false⟩ condition [body]]
    (some (⟨false, false⟩, [.text "no"])) ⟨false, false⟩], [], [], []⟩

/-- Behind an output the failure shows; the filter in the condition is not from a script. -/
def loud : Source := ⟨"t.txt",
  "\x7b% if name | lower %\x7d\x7b\x7b name | boom \x7d\x7d\x7b% else %\x7dno\x7b% endif %\x7d"⟩

theorem loud_fails : ∃ t, compile loud = .ok t ∧ Extensions.load [booming] = .ok boomed ∧
    t.SilentConditions (boomed.callbacks (.object bare.context)) ∧
    (∃ call ∈ calls t boomed bare, boomed.CallFails (.object bare.context) call) ∧
    ∃ cause, (render t boomed bare).2 = .error (.dataType "A" cause) := by
  let lowered : Template.Expr := .mk (.path "name") false [.mk "lower" []]
  let t := branching lowered (.tag ⟨false, false⟩ (.output boomName))
  have compiles : compile loud = .ok t := by cbv
  have silent : t.SilentConditions (boomed.callbacks (.object bare.context)) := by
    intro e he _
    have sites : t.sites = [.condition lowered, .filter "lower", .filter "boom"] := rfl
    obtain rfl : e = lowered := by simpa [sites] using he
    have unregistered : boomed.registrations.filters.get? "lower" = none := by decide +kernel
    have lowerSites : lowered.sites = [.filter "lower"] := rfl
    rw [lowerSites, List.forall_mem_singleton]
    exact Extensions.silent_filter_iff.mpr unregistered
  have fails : ∃ call ∈ calls t boomed bare, boomed.CallFails (.object bare.context) call :=
    exists_callFails_iff.mpr (by decide +kernel)
  exact ⟨t, compiles, load_booming, silent, fails, failing_call_fails_rendering silent fails⟩

def hushed : Source :=
  ⟨"t.txt", "\x7b% if name | boom %\x7dyes\x7b% else %\x7dno\x7b% endif %\x7d"⟩

theorem hushed_renders : ∃ t, compile hushed = .ok t ∧ Extensions.load [booming] = .ok boomed ∧
    (∃ call ∈ calls t boomed bare, boomed.CallFails (.object bare.context) call) ∧
    (render t boomed bare).2 = .ok "no" := by
  let t := branching boomName (.text "yes")
  have compiles : compile hushed = .ok t := by cbv
  have fails : ∃ call ∈ calls t boomed bare, boomed.CallFails (.object bare.context) call :=
    exists_callFails_iff.mpr (by decide +kernel)
  have text : (render t boomed bare).2.toOption = some "no" := by decide +kernel
  exact ⟨t, compiles, load_booming, fails, Outcome.toOption_eq_some.mp text⟩

end Renderer

end SchemaForge
