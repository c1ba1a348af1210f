import SchemaForge.Proofs.Template.Lockstep

/-! The calls that rendering makes to the outside, in order. They are those that callbacks keep a
record of that do the same as the ones at hand: the record changes nothing about rendering, and the
calls lead from the state outside in front of it to the one behind it. -/

namespace SchemaForge.Template

open Json (Value)
open Render (Link)

variable {σ : Type}

inductive Callee where
  | filter (name : String) (v : Value)
  | function (name : String)

structure OutsideCall (σ : Type) where
  callee : Callee
  args : Args
  found : σ
  left : σ
  result : Except (List String) Value

namespace Callbacks

variable (c : Callbacks σ)

def recorded : Callbacks (σ × List (OutsideCall σ)) where
  filter? name := (c.filter? name).map fun f s v args =>
    let (left, result) := f s.1 v args
    ((left, s.2 ++ [⟨.filter name v, args, s.1, left, result⟩]), result)
  function? name := (c.function? name).map fun f s args =>
    let (left, result) := f s.1 args
    ((left, s.2 ++ [⟨.function name, args, s.1, left, result⟩]), result)

def Answers (call : OutsideCall σ) : Prop :=
  match call.callee with
  | .filter name v =>
    ∃ f, c.filter? name = some f ∧ f call.found v call.args = (call.left, call.result)
  | .function name =>
    ∃ f, c.function? name = some f ∧ f call.found call.args = (call.left, call.result)

inductive Leads (start : σ) : List (OutsideCall σ) → σ → Prop
  | nil : Leads start [] start
  | concat {calls : List (OutsideCall σ)} {call : OutsideCall σ} (front : Leads start calls call.found)
      (answered : c.Answers call) : Leads start (calls ++ [call]) call.left

/-- The record is true, and as long as rendering goes on all calls in it have a property. -/
def recording (start : σ) (P : OutsideCall σ → Prop) : Link σ (σ × List (OutsideCall σ)) where
  going s t := (t.1 = s ∧ c.Leads start t.2 s) ∧ ∀ call ∈ t.2, P call
  failed s t := t.1 = s ∧ c.Leads start t.2 s
  loosens _ _ h := h.1

variable {c} {start : σ} {P : OutsideCall σ → Prop}

theorem Leads.answers {calls : List (OutsideCall σ)} {last : σ} (h : c.Leads start calls last) :
    ∀ call ∈ calls, c.Answers call := by
  induction h with
  | nil => simp
  | concat _ answered ih =>
    simp only [List.forall_mem_append, List.forall_mem_singleton]
    exact ⟨ih, answered⟩

theorem recording_call (succeeding : ∀ call v, call.result = .ok v → P call) {call : OutsideCall σ}
    {calls : List (OutsideCall σ)} (linked : (c.recording start P).going call.found (call.found, calls))
    (answered : c.Answers call) :
    (c.recording start P).behind call.result call.left (call.left, calls ++ [call]) := by
  have led : c.Leads start (calls ++ [call]) call.left := .concat linked.1.2 answered
  cases hresult : call.result with
  | error e => exact ⟨rfl, led⟩
  | ok v =>
    refine ⟨⟨rfl, led⟩, ?_⟩
    simp only [List.forall_mem_append, List.forall_mem_singleton]
    exact ⟨linked.2, succeeding call v hresult⟩

theorem recorded_alike (succeeding : ∀ call v, call.result = .ok v → P call) :
    c.Alike (c.recording start P) c.recorded := by
  constructor
  · intro name
    unfold FilterAlike recorded
    dsimp only
    cases hf : c.filter? name with
    | none => exact .none
    | some f =>
      refine .some fun v args s t linked => ?_
      obtain ⟨s', calls⟩ := t
      obtain rfl : s' = s := linked.1.1
      let call : OutsideCall σ := ⟨.filter name v, args, s', (f s' v args).1, (f s' v args).2⟩
      have answered : c.Answers call := ⟨f, hf, rfl⟩
      exact ⟨rfl, recording_call succeeding linked answered⟩
  · intro name
    unfold FunctionAlike recorded
    dsimp only
    cases hf : c.function? name with
    | none => exact .none
    | some f =>
      refine .some fun args s t linked => ?_
      obtain ⟨s', calls⟩ := t
      obtain rfl : s' = s := linked.1.1
      let call : OutsideCall σ := ⟨.function name, args, s', (f s' args).1, (f s' args).2⟩
      have answered : c.Answers call := ⟨f, hf, rfl⟩
      exact ⟨rfl, recording_call succeeding linked answered⟩

end Callbacks

variable (st : Setting σ) (outside : σ)

/-- The calls that rendering makes, in order. -/
def calls : List (OutsideCall σ) :=
  (render (st.withCallbacks st.callbacks.recorded) (outside, [])).1.2

theorem recorded_linked :
    let on := render (st.withCallbacks st.callbacks.recorded) (outside, [])
    (on.1.1 = (render st outside).1 ∧ st.callbacks.Leads outside on.1.2 (render st outside).1) ∧
      on.2 = (render st outside).2 := by
  let L := st.callbacks.recording outside fun _ => True
  have tight : L.Tight := fun s t h => ⟨h, fun _ _ => trivial⟩
  have linked : L.going outside (outside, []) := ⟨⟨rfl, .nil⟩, fun _ _ => trivial⟩
  have ends := render_alike (Callbacks.recorded_alike fun _ _ _ => trivial) (.inl tight) linked
  exact ⟨(Link.behind_going tight ends.2).1, ends.1.symm⟩

theorem calls_lead : st.callbacks.Leads outside (calls st outside) (render st outside).1 :=
  (recorded_linked st outside).1.2

variable {st outside}

/-- Where no condition that is a variable calls out, no call fails unless rendering does. -/
theorem calls_succeed (silent : st.template.SilentConditions st.callbacks) {text : String}
    (h : (render st outside).2 = .ok text) :
    ∀ call ∈ calls st outside, ∃ v, call.result = .ok v := by
  let L := st.callbacks.recording outside fun call => ∃ v, call.result = .ok v
  have linked : L.going outside (outside, []) := ⟨⟨rfl, .nil⟩, nofun⟩
  have ends := render_alike (Callbacks.recorded_alike fun _ v hv => ⟨v, hv⟩) (.inr silent) linked
  have behind := ends.2
  rw [h] at behind
  exact behind.2

end SchemaForge.Template
