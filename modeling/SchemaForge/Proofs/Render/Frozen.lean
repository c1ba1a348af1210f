import SchemaForge.Proofs.Extension.HostCalls
import SchemaForge.Proofs.Generate.Progress
import SchemaForge.Proofs.Render.Calls

/-! Registrations while data types render. Finishing closes them, and no script that a filter or tag runs
opens them again: every call that would register something raises an error in the script, whatever the
script has done to its globals and by whatever way it has come to the function. -/

namespace SchemaForge.Extension

open Script (Ask Host Session)
open Template (OutsideCall)
open Extensions (ScriptState)

section Functions

variable {σ : Type} (host : Host σ) (s : Session σ) (name : String)

/-- The calls that looking up a global function makes, where the globals have a metatable. -/
def findAsks : List (Ask σ) :=
  match s.heap.index Script.metaDepth (.table Script.Library.globals) (.text name) with
  | .call f object key => s.callAsks host f [object, key]
  | _ => []

theorem findFunction_serves :
    host.Serves s.state (findAsks host s name) (findFunction host s name).1.state := by
  unfold findAsks findFunction
  dsimp only
  cases s.heap.index Script.metaDepth (.table Script.Library.globals) (.text name) with
  | value v =>
    dsimp only
    split <;> exact .nil s.state
  | call f object key =>
    dsimp only
    have hcall := Session.call_serves host s f [object, key]
    generalize s.call host f [object, key] = r at hcall ⊢
    obtain ⟨s', result⟩ := r
    cases result with
    | ok results =>
      dsimp only
      split <;> exact hcall
    | error e => exact hcall
  | notTable v => exact .nil s.state
  | endless => exact .nil s.state

def given (argument : Option Json.Value) : Session σ × List Script.Value :=
  match argument with
  | some v => ({ s with heap := (toScript s.heap v).1 }, [(toScript s.heap v).2])
  | none => (s, [])

def functionAsks (argument : Option Json.Value) : List (Ask σ) :=
  findAsks host s name ++
    match findFunction host s name with
    | (s, .ok f) => (given s argument).1.callAsks host f (given s argument).2
    | (_, .error _) => []

theorem given_state (argument : Option Json.Value) : (given s argument).1.state = s.state := by
  cases argument <;> rfl

theorem callFunction_eq (argument : Option Json.Value) :
    (callFunction host s name argument).1 =
      match findFunction host s name with
      | (s, .ok f) => ((given s argument).1.call host f (given s argument).2).1
      | (s, .error _) => s := by
  unfold callFunction
  cases findFunction host s name with
  | mk s' result =>
    cases result with
    | error e => rfl
    | ok f =>
      cases argument <;> dsimp only [given] <;> split <;> next h => rw [h]

theorem callFunction_serves (argument : Option Json.Value) :
    host.Serves s.state (functionAsks host s name argument)
      (callFunction host s name argument).1.state := by
  have found := findFunction_serves host s name
  rw [functionAsks, callFunction_eq]
  cases hfind : findFunction host s name with
  | mk s' result =>
    rw [hfind] at found
    cases result with
    | error e => exact found.append (.nil s'.state)
    | ok f =>
      have called := Session.call_serves host (given s' argument).1 f (given s' argument).2
      rw [given_state] at called
      exact found.append called

def filterArgument (v : Json.Value) : Option Json.Value :=
  match v with
  | .null => none
  | v => some v

theorem apply_state (b : FilterBinding) (v : Json.Value) :
    (b.apply host s v).1 = (callFunction host s b.function (filterArgument v)).1 := by
  unfold FilterBinding.apply
  dsimp only
  split
  · next h => exact (congrArg Prod.fst h).symm
  · next h =>
    refine Eq.trans ?_ (congrArg Prod.fst h).symm
    split <;> rfl

theorem callTag_state (function : String) (context : Json.Value) (args : Json.Object) :
    (callTag host s function context args).1 =
      (callFunction host s function (some (tagArgument context args))).1 := by
  unfold callTag
  split
  · next h => rw [h]
  · next h =>
    rw [h]
    split <;> rfl
  · next h => rw [h]

end Functions

def Extensions.asksOf (x : Extensions) (context : Json.Value) (call : OutsideCall ScriptState) :
    List (Ask Registry) :=
  match call.callee with
  | .filter name v =>
    match x.registrations.filters.get? name with
    | some binding => functionAsks host call.found binding.function (filterArgument v)
    | .none => []
  | .function name =>
    match x.registrations.tags.get? name with
    | some function =>
      functionAsks host call.found function (some (tagArgument context call.args))
    | .none => []

section Rendering

variable {x : Extensions} {context : Json.Value} {start last : ScriptState}

theorem filter_state {name : String}
    {f : ScriptState → Json.Value → Template.Args → ScriptState × Except (List String) Json.Value}
    (hf : x.filter? name = some f) (s : ScriptState) (v : Json.Value) (args : Template.Args) :
    ∃ binding, x.registrations.filters.get? name = some binding ∧
      (f s v args).1 = (callFunction host s binding.function (filterArgument v)).1 := by
  obtain ⟨binding, hbinding, rfl⟩ := Option.map_eq_some_iff.mp hf
  refine ⟨binding, hbinding, ?_⟩
  rw [← apply_state]
  dsimp only
  split <;> next h => rw [h]

theorem tag_state {name : String}
    {f : ScriptState → Template.Args → ScriptState × Except (List String) Json.Value}
    (hf : x.tag? context name = some f) (s : ScriptState) (args : Template.Args) :
    ∃ function, x.registrations.tags.get? name = some function ∧
      (f s args).1 = (callFunction host s function (some (tagArgument context args))).1 := by
  obtain ⟨function, hfunction, rfl⟩ := Option.map_eq_some_iff.mp hf
  refine ⟨function, hfunction, ?_⟩
  rw [← callTag_state]
  dsimp only
  split <;> next h => rw [h]

theorem answers_serve {call : OutsideCall ScriptState}
    (answered : (x.callbacks context).Answers call) :
    host.Serves call.found.state (x.asksOf context call) call.left.state := by
  unfold Template.Callbacks.Answers at answered
  unfold Extensions.asksOf
  cases hcallee : call.callee with
  | filter name v =>
    rw [hcallee] at answered
    obtain ⟨f, hf, hcall⟩ := answered
    obtain ⟨binding, hbinding, hstate⟩ := filter_state hf call.found v call.args
    rw [hcall] at hstate
    have served := callFunction_serves host call.found binding.function (filterArgument v)
    rw [← hstate] at served
    simpa only [hbinding] using served
  | function name =>
    rw [hcallee] at answered
    obtain ⟨f, hf, hcall⟩ := answered
    obtain ⟨function, hfunction, hstate⟩ := tag_state hf call.found call.args
    rw [hcall] at hstate
    have served := callFunction_serves host call.found function
      (some (tagArgument context call.args))
    rw [← hstate] at served
    simpa only [hfunction] using served

theorem leads_serve {calls : List (OutsideCall ScriptState)}
    (h : (x.callbacks context).Leads start calls last) :
    host.Serves start.state (calls.flatMap (x.asksOf context)) last.state := by
  induction h with
  | nil => exact .nil start.state
  | concat front answered ih =>
    rw [List.flatMap_append, List.flatMap_singleton]
    exact ih.append (answers_serve answered)

end Rendering

/-- A call raises an error in the script; if nothing is wrong with its arguments, the error says that
registrations are closed. -/
def Refused (a : Ask Registry) : Prop :=
  ∃ message, host.call a.found a.heap a.function a.args = .error (.failure message) ∧
    ∀ call, Means a call → message = closedMessage

variable {a : Ask Registry} {asks : List (Ask Registry)} {last : Registry}

theorem Means.registers {call : HostCall} (h : Means a call) (named : a.function ≠ "log") :
    call.registers = true := by
  cases h with
  | log isLog => exact absurd isLog named
  | predefine | filter | tag => rfl

theorem refused_of_closed (closed : a.found = none) (named : a.function ≠ "log") : Refused a := by
  unfold Refused
  simp only [host, closed]
  cases hread : HostCall.read a.heap a.function a.args with
  | error e =>
    refine ⟨e, rfl, fun call means => ?_⟩
    rw [read_eq_ok.mpr means] at hread
    cases hread
  | ok call =>
    have registers := (read_eq_ok.mp hread).registers named
    exact ⟨closedMessage, by simp [Registry.accept, registers], fun _ _ => rfl⟩

theorem serve_closed (closed : a.found = none) : host.serve a = none := by
  unfold Host.serve
  simp only [host, closed]
  cases HostCall.read a.heap a.function a.args with
  | error e => rfl
  | ok call => cases h : call.registers <;> simp [Registry.accept, h]

theorem serves_closed {state : Registry} (closed : state = none)
    (h : host.Serves state asks last) : last = none ∧ ∀ a ∈ asks, a.found = none := by
  induction h with
  | nil => exact ⟨closed, nofun⟩
  | cons rest ih =>
    have rest := ih (serve_closed closed)
    simp only [List.forall_mem_cons]
    exact ⟨rest.1, closed, rest.2⟩

end SchemaForge.Extension

namespace SchemaForge

open Extension (Bridge Extensions Registry Refused host)
open Script (Ask)
open Template (Template)

namespace Renderer

variable (t : Template) (x : Extensions) (d : DataType)

/-- The calls of the program that scripts make while a data type renders, in order. -/
def asks : List (Ask Registry) := (calls t x d).flatMap (x.asksOf (.object d.context))

theorem render_serves :
    host.Serves x.session.state (asks t x d) (render t x d).1.session.state :=
  Extension.leads_serve (calls_lead t x d)

end Renderer

namespace Generator

variable (t : Template) (b : Bridge)

theorem stateBefore_frozen (ds : List DataType) (i : Nat) :
    let x := stateBefore t b.finish ds i
    x.registrations = b.finish.registrations ∧ x.scripts = b.finish.scripts ∧
      x.session.state = none := by
  unfold stateBefore
  generalize ds.take i = rendered
  induction rendered using List.reverseRecOn with
  | nil => exact ⟨rfl, rfl, rfl⟩
  | append_singleton rendered d ih =>
    obtain ⟨registrations, scripts, closed⟩ := ih
    rw [List.foldl_concat]
    exact ⟨(Renderer.render_registrations t _ d).trans registrations,
      (Renderer.render_scripts t _ d).trans scripts,
      (Extension.serves_closed closed (Renderer.render_serves t _ d)).1⟩

/-- However many data types have been rendered, registrations and the list of scripts are those that
finishing has left, and what the next data type has scripts register is refused call by call. -/
theorem rendering_keeps_registrations (ds : List DataType) (i : Nat) :
    let x := stateBefore t b.finish ds i
    (x.registrations = b.finish.registrations ∧ x.scripts = b.finish.scripts ∧
      x.session.state = none) ∧
    ∀ d, host.Serves x.session.state (Renderer.asks t x d) (Renderer.render t x d).1.session.state ∧
      ∀ a ∈ Renderer.asks t x d, a.function ≠ "log" → Refused a := by
  intro x
  have frozen := stateBefore_frozen t b ds i
  refine ⟨frozen, fun d => ?_⟩
  have served := Renderer.render_serves t x d
  refine ⟨served, fun a ha named => ?_⟩
  exact Extension.refused_of_closed ((Extension.serves_closed frozen.2.2 served).2 a ha) named

example :
    let script : Source := ⟨"sneak.lua", "local register = registerTag registerTag = nil " ++
      "function sneak(s) pcall(register, 'late', 'sneak') return s end " ++
      "registerFilter('sneak', 'sneak', 'string')"⟩
    let t : Template := ⟨"t.txt",
      [.tag ⟨false, false⟩ (.output (.mk (.path "name") false [.mk "sneak" []]))], [], [], []⟩
    let x := (Bridge.new.load script).1.finish
    (Renderer.asks t x (.cls (.plain "A" []))).map (·.function) = ["registerTag"] := by
  decide +kernel

end Generator

end SchemaForge
