import SchemaForge.Proofs.Template.Calls

/-! What reaches a template from outside. Of the state outside a template gets to know the answers to its
calls only: where all calls are answered alike, whatever calls there were before, it renders alike. -/

namespace SchemaForge.Template

open Json (Value)
open Render (Link)

variable {σ τ : Type}

structure Asked where
  callee : Callee
  args : Args

namespace Callbacks

variable (c : Callbacks σ) (start : σ)

def ask (s : σ) (a : Asked) : σ × Except (List String) Value :=
  match a.callee with
  | .filter name v =>
    match c.filter? name with
    | some f => f s v a.args
    | none => (s, .error [])
  | .function name =>
    match c.function? name with
    | some f => f s a.args
    | none => (s, .error [])

def behind (asked : List Asked) : σ := asked.foldl (fun s a => (c.ask s a).1) start

theorem behind_concat (asked : List Asked) (a : Asked) :
    c.behind start (asked ++ [a]) = (c.ask (c.behind start asked) a).1 := by
  rw [behind, List.foldl_append]
  rfl

def answer (asked : List Asked) (a : Asked) : Except (List String) Value :=
  (c.ask (c.behind start asked) a).2

structure AnswersAlike (c : Callbacks σ) (start : σ) (c' : Callbacks τ) (start' : τ) : Prop where
  filters : ∀ name, (c.filter? name).isSome = (c'.filter? name).isSome
  functions : ∀ name, (c.function? name).isSome = (c'.function? name).isSome
  answers : ∀ asked a, c.answer start asked a = c'.answer start' asked a

variable {c start} {c' : Callbacks τ} {start' : τ}

def abreast (c : Callbacks σ) (start : σ) (c' : Callbacks τ) (start' : τ) : Link σ τ where
  going s t := ∃ asked, s = c.behind start asked ∧ t = c'.behind start' asked
  failed s t := ∃ asked, s = c.behind start asked ∧ t = c'.behind start' asked
  loosens _ _ h := h

theorem abreast_ask (alike : c.AnswersAlike start c' start') (a : Asked) {s : σ} {t : τ}
    (linked : (abreast c start c' start').going s t) :
    (c.ask s a).2 = (c'.ask t a).2 ∧
      (abreast c start c' start').behind (c.ask s a).2 (c.ask s a).1 (c'.ask t a).1 := by
  obtain ⟨asked, rfl, rfl⟩ := linked
  have next : (abreast c start c' start').going (c.ask (c.behind start asked) a).1
      (c'.ask (c'.behind start' asked) a).1 :=
    ⟨asked ++ [a], (behind_concat c start asked a).symm, (behind_concat c' start' asked a).symm⟩
  refine ⟨alike.answers asked a, ?_⟩
  generalize (c.ask (c.behind start asked) a).2 = r
  cases r <;> exact next

theorem AnswersAlike.alike (same : c.AnswersAlike start c' start') :
    c.Alike (abreast c start c' start') c' where
  filters name := by
    have known := same.filters name
    unfold FilterAlike
    cases hf : c.filter? name with
    | none =>
      cases hg : c'.filter? name with
      | none => exact .none
      | some g => simp [hf, hg] at known
    | some f =>
      cases hg : c'.filter? name with
      | none => simp [hf, hg] at known
      | some g =>
        refine .some fun v args s t linked => ?_
        have asked := abreast_ask same ⟨.filter name v, args⟩ linked
        simpa only [ask, hf, hg] using asked
  functions name := by
    have known := same.functions name
    unfold FunctionAlike
    cases hf : c.function? name with
    | none =>
      cases hg : c'.function? name with
      | none => exact .none
      | some g => simp [hf, hg] at known
    | some f =>
      cases hg : c'.function? name with
      | none => simp [hf, hg] at known
      | some g =>
        refine .some fun args s t linked => ?_
        have asked := abreast_ask same ⟨.function name, args⟩ linked
        simpa only [ask, hf, hg] using asked

end Callbacks

theorem render_of_answers {st : Setting σ} {c' : Callbacks τ} {outside : σ} {outside' : τ}
    (same : st.callbacks.AnswersAlike outside c' outside') :
    (render st outside).2 = (render (st.withCallbacks c') outside').2 := by
  have tight : (Callbacks.abreast st.callbacks outside c' outside').Tight := fun _ _ h => h
  exact (render_alike same.alike (.inl tight) ⟨[], rfl, rfl⟩).1

end SchemaForge.Template
