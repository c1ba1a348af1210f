import SchemaForge.Proofs.Extension.Copies
import SchemaForge.Proofs.Render.Frozen
import SchemaForge.Proofs.Template.Answers

/-! Tag calls apart from each other. Each call hands its function one table that no script has seen, which
holds the context with the arguments of that call laid over it and nothing of any call before. -/

namespace SchemaForge

namespace Extension

open Json (Object)
open Script (Heap Host Session ScriptError lastUnder)
open Text (Utf8.decode)

variable {σ : Type} {context args args' : Object}

/-- What a tag has for a key: the argument of that name, of several the last, or else what the context
has. -/
def shownUnder (context args : Object) (key : String) : Json.Value :=
  ((lastUnder args key).or (Object.get? context key)).getD .null

theorem shownUnder_perm (distinct : Object.Distinct args) (perm : args.Perm args') :
    shownUnder context args = shownUnder context args' := by
  have same (key : String) : lastUnder args key = lastUnder args' key := by
    have distinct' := distinct.perm perm
    rw [lastUnder_of_distinct distinct, lastUnder_of_distinct distinct']
    refine Option.ext fun v => ?_
    rw [Object.get?_eq_some distinct, Object.get?_eq_some distinct', perm.mem_iff]
  funext key
  rw [shownUnder, shownUnder, same]

/-- A table that was not there before, behind tables that are as they were, and what it holds. -/
structure OwnTable (before after : Heap) (place : Nat) (content : String → Json.Value) : Prop where
  kept : before.Extends after
  own : before.tables.size ≤ place ∧ place < after.tables.size
  plain : (after.table place).metatable = .none
  texts : ∀ e ∈ (after.table place).pairs, ∃ key, e.1 = .text key
  holds : ∀ key, Mirrors after before.tables.size (content key) ((after.table place).get (.text key))

def tagText (function : String) (r : Session σ × Except ScriptError (List Script.Value)) :
    Called σ String :=
  match r with
  | (s, .error e) => (s, .error (.script function e.message))
  | (s, .ok results) =>
    match results.head?.getD .nil with
    | .string b =>
      match Utf8.decode b with
      | .ok text => (s, .ok text)
      | .error fault => (s, .error (.script function (ConversionError.badText fault).message))
    | v => (s, .error (.marshal function (.mismatch .string v.exactTypeName)))

/-- How a call of a tag goes: its function is not there, or is called with a table of its own. -/
inductive Delivers (host : Host σ) (s : Session σ) (function : String) (content : String → Json.Value) :
    Called σ String → Prop
  | missing {found : Session σ} {e : CallbackError}
      (sought : findFunction host s function = (found, .error e)) :
      Delivers host s function content (found, .error e)
  | called {found : Session σ} {f : Script.Value} {heap : Heap} {place : Nat}
      (sought : findFunction host s function = (found, .ok f))
      (own : OwnTable found.heap heap place content) :
      Delivers host s function content
        (tagText function (Session.call host { found with heap } f [.table place]))

theorem ownTable_tagArgument (distinct : Object.Distinct context) (args : Object) (h : Heap) :
    ∃ place, (toScript h (tagArgument (.object context) args)).2 = .table place ∧
      OwnTable h (toScript h (tagArgument (.object context) args)).1 place (shownUnder context args) := by
  obtain ⟨grows, mirrors⟩ := copied h (tagArgument (.object context) args)
  rw [tagArgument] at grows mirrors ⊢
  generalize toScript h _ = r at grows mirrors ⊢
  obtain ⟨later, x⟩ := r
  cases mirrors with
  | object own plain texts each =>
    refine ⟨_, rfl, grows, own, plain, texts, fun key => ?_⟩
    have last := lastUnder_of_distinct (distinct_foldl_insert distinct args) key
    rw [get?_foldl_insert] at last
    rw [shownUnder, ← last]
    exact each key

theorem callTag_delivers (host : Host σ) (s : Session σ) (function : String)
    (distinct : Object.Distinct context) (args : Object) :
    Delivers host s function (shownUnder context args)
      (callTag host s function (.object context) args) := by
  cases sought : findFunction host s function with
  | mk found result =>
    cases result with
    | error e =>
      have outcome : callTag host s function (.object context) args = (found, .error e) := by
        simp only [callTag, callFunction, sought]
      rw [outcome]
      exact .missing sought
    | ok f =>
      obtain ⟨place, table, own⟩ := ownTable_tagArgument distinct args found.heap
      have outcome : callTag host s function (.object context) args =
          tagText function (Session.call host
            { found with heap := (toScript found.heap (tagArgument (.object context) args)).1 } f
            [.table place]) := by
        simp only [callTag, callFunction, sought, table]
        generalize Session.call host _ f [.table place] = called
        obtain ⟨left, result⟩ := called
        cases result with
        | error e => rfl
        | ok results =>
          dsimp only [tagText]
          generalize results.head?.getD .nil = v
          cases v <;> rfl
      rw [outcome]
      exact .called sought own

def tagAnswer (name : String) (r : Called Registry String) :
    Extensions.ScriptState × Except (List String) Json.Value :=
  match r with
  | (s, .ok text) => (s, .ok (.string text))
  | (s, .error e) => (s, .error (failureTexts s (tagFailure name) e))

end Extension

namespace Renderer

open Extension (Extensions Delivers shownUnder tagAnswer)
open Extension.Extensions (ScriptState)
open Json (Object)
open Template (Template OutsideCall)
open Template.Render (after callOut find)

variable {t : Template} {x y : Extensions} {d : DataType}

/-- What a data type is rendered with hangs on the registrations and the computer, on no script state. -/
theorem setting_congr (same : y.registrations = x.registrations) (system : y.system = x.system) :
    setting t y d = setting t x d := by
  have filters : y.filter? = x.filter? := by
    unfold Extensions.filter?
    rw [same]
  have tags (context : Json.Value) : y.tag? context = x.tag? context := by
    unfold Extensions.tag?
    rw [same]
  unfold setting Extensions.callbacks
  rw [filters, tags, system]

theorem tag_call_delivers (distinct : Object.Distinct d.context) {call : OutsideCall ScriptState}
    {name : String} (callee : call.callee = .function name)
    (answered : (x.callbacks (.object d.context)).Answers call) :
    ∃ function r, x.registrations.tags.get? name = some function ∧
      Delivers Extension.host call.found function (shownUnder d.context call.args) r ∧
      (call.left, call.result) = tagAnswer name r := by
  unfold Template.Callbacks.Answers at answered
  rw [callee] at answered
  obtain ⟨f, hf, called⟩ := answered
  obtain ⟨function, registered, rfl⟩ := Option.map_eq_some_iff.mp hf
  exact ⟨function, _, registered, Extension.callTag_delivers Extension.host call.found function distinct
    call.args, called.symm⟩

theorem find_behind_call (st : Template.Setting ScriptState)
    (f : ScriptState → ScriptState × Except (List String) Json.Value)
    (p : Template.Progress ScriptState) (path : String) :
    (after (find st path) (after (callOut f) p).2).1 = (after (find st path) p).1 := by
  rw [Template.Render.after_find, Template.Render.after_find, Template.Render.after_callOut]

end Renderer

namespace Generator

open Extension (Bridge Extensions Delivers shownUnder tagAnswer)
open Extension.Extensions (ScriptState)
open Json (Object)
open Template (Template)
open Template.Render (after callOut find)

theorem stateBefore_registrations (t : Template) (x : Extensions) (ds : List DataType) (i : Nat) :
    (stateBefore t x ds i).registrations = x.registrations := by
  unfold stateBefore
  induction ds.take i generalizing x with
  | nil => rfl
  | cons d rest ih => rw [List.foldl_cons, ih, Renderer.render_registrations]

theorem stateBefore_system (t : Template) (x : Extensions) (ds : List DataType) (i : Nat) :
    (stateBefore t x ds i).system = x.system := by
  unfold stateBefore
  induction ds.take i generalizing x with
  | nil => rfl
  | cons d rest ih => rw [List.foldl_cons, ih, Renderer.render_system]

/-- How the tag calls of one rendering are apart, behind the renderings of other data types. -/
structure TagCallsApart (t : Template) (x : Extensions) (ds : List DataType) (i : Nat) (d : DataType) :
    Prop where
  /-- The calls of filters and tags stand in a row, each finding what the one before has left. -/
  led : ((stateBefore t x ds i).callbacks (.object d.context)).Leads (stateBefore t x ds i).session
    (Renderer.calls t (stateBefore t x ds i) d) (Renderer.render t (stateBefore t x ds i) d).1.session
  /-- In whatever state a tag call finds the scripts, its function gets a table of its own that holds the
  context with the arguments of the call over it. -/
  delivered : ∀ call ∈ Renderer.calls t (stateBefore t x ds i) d, ∀ name, call.callee = .function name →
    ∃ function r, x.registrations.tags.get? name = some function ∧
      Delivers Extension.host call.found function (shownUnder d.context call.args) r ∧
      (call.left, call.result) = tagAnswer name r
  unordered : ∀ args args' : Template.Args, Object.Distinct args → args.Perm args' →
    shownUnder d.context args = shownUnder d.context args'
  /-- Behind a tag call every variable of the template leads to what it led to before. -/
  unseen : ∀ name f, x.tag? (.object d.context) name = some f →
    ∀ (args : Template.Args) (p : Template.Progress ScriptState) (path : String),
      (after (find (Renderer.setting t x d) path) (after (callOut fun s => f s args) p).2).1 =
        (after (find (Renderer.setting t x d) path) p).1
  /-- Nothing but the answers to its calls reaches the template. -/
  answered : ∀ x' : Extensions, x'.system = x.system →
    ((stateBefore t x ds i).callbacks (.object d.context)).AnswersAlike
      (stateBefore t x ds i).session (x'.callbacks (.object d.context)) x'.session →
    (Renderer.render t (stateBefore t x ds i) d).2 = (Renderer.render t x' d).2
  /-- Template, context and callbacks are those without any rendering before. -/
  kept : Renderer.setting t (stateBefore t x ds i) d = Renderer.setting t x d

/-- Tag calls are apart: however many data types and calls there were before and whatever scripts have
done to the tables they were given, the function of a tag gets the data type's context with the arguments
of its own call laid over it, and no call changes what the template or a later data type sees. -/
theorem tag_calls_apart (t : Template) (x : Extensions) (ds : List DataType) (i : Nat) {d : DataType}
    (distinct : Object.Distinct d.extra) : TagCallsApart t x ds i d where
  led := Renderer.calls_lead t _ d
  delivered call member name callee := by
    have context : Object.Distinct d.context := Extension.distinct_foldl_insert distinct d.contextFields
    have answered := (Renderer.calls_lead t (stateBefore t x ds i) d).answers call member
    rw [← stateBefore_registrations t x ds i]
    exact Renderer.tag_call_delivers context callee answered
  unordered args args' distinct perm := Extension.shownUnder_perm distinct perm
  unseen name f _ args p path := Renderer.find_behind_call _ _ p path
  answered x' system same := by
    have kept : (stateBefore t x ds i).system = x'.system := (stateBefore_system t x ds i).trans system.symm
    have other : Renderer.setting t x' d = (Renderer.setting t (stateBefore t x ds i) d).withCallbacks
        (x'.callbacks (.object d.context)) := by
      rw [Renderer.setting, Renderer.setting, Template.Setting.withCallbacks, kept]
    rw [Renderer.render_result, Renderer.render_result, other]
    exact congrArg _ (Template.render_of_answers same)
  kept := Renderer.setting_congr (stateBefore_registrations t x ds i) (stateBefore_system t x ds i)

def marking : Source := ⟨"mark.lua", "function mark(c) local s = c.name .. tostring(c.n) .. tostring(c.seen) " ++
  "c.name, c.n, c.seen = 'B', 2, true return s end registerTag('mark', 'mark')"⟩

def markedTwice : Template :=
  ⟨"t.txt", [.tag ⟨false, false⟩ (.output (.plain (.call (.mk "mark" [("n", .plain (.int 1))])))),
    .tag ⟨false, false⟩ (.output (.plain (.call (.mk "mark" [])))),
    .tag ⟨false, false⟩ (.output (.plain (.path "name")))], [], [], []⟩

/-- The second call and the variable see nothing of what the first call was given or has written, and
neither does the data type when it is rendered once more. -/
theorem tag_calls_apart_of_marking :
    let x := (Bridge.new.load marking).1.finish
    let d : DataType := .cls (.plain "A" [])
    Object.Distinct d.extra ∧ TagCallsApart markedTwice x [d] 1 d ∧
      (Renderer.calls markedTwice (stateBefore markedTwice x [d] 1) d).length = 2 ∧
      RendersTo markedTwice x [d, d] 1 (.ok "A1nilAnilnilA") := by
  intro x d
  have distinct : Object.Distinct d.extra := List.nodup_nil
  have two : (Renderer.calls markedTwice (stateBefore markedTwice x [d] 1) d).length = 2 := by
    decide +kernel
  have text : (Renderer.render markedTwice (stateBefore markedTwice x [d, d] 1) d).2.toOption =
      some "A1nilAnilnilA" := by decide +kernel
  exact ⟨distinct, tag_calls_apart markedTwice x [d] 1 distinct, two, d, rfl,
    Outcome.toOption_eq_some.mp text⟩

end Generator

end SchemaForge
