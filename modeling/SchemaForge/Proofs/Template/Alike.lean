import SchemaForge.Template.Render

/-! Computations of rendering that go alike in two surroundings. The states outside are linked, in one
way while rendering goes on and perhaps more loosely behind a failure; computations that are put
together from parts that go alike go alike themselves. Only a failure that is caught needs a link that
is as tight behind failures as it is elsewhere. -/

namespace SchemaForge.Template.Render

structure Link (σ τ : Type) where
  going : σ → τ → Prop
  failed : σ → τ → Prop
  loosens : ∀ s t, going s t → failed s t

variable {σ τ α β : Type}

namespace Link

def behind {ε : Type} (L : Link σ τ) : Except ε α → σ → τ → Prop
  | .ok _ => L.going
  | .error _ => L.failed

def tight (L : Link σ τ) : Link σ τ := ⟨L.going, L.going, fun _ _ h => h⟩

def Tight (L : Link σ τ) : Prop := ∀ s t, L.failed s t → L.going s t

theorem tight_tight (L : Link σ τ) : L.tight.Tight := fun _ _ h => h

theorem behind_going {ε : Type} {L : Link σ τ} (tight : L.Tight) {r : Except ε α} {s : σ} {t : τ}
    (h : L.behind r s t) : L.going s t := by
  cases r with
  | ok _ => exact h
  | error _ => exact tight s t h

end Link

/-- What a computation comes to, and the progress behind it. -/
def after (x : Eval σ α) (p : Progress σ) : Except Failure α × Progress σ := x.run.run p

def Alike (L : Link σ τ) (x : Eval σ α) (y : Eval τ α) : Prop :=
  ∀ p q, p.toStanding = q.toStanding → L.going p.outside q.outside →
    (after x p).1 = (after y q).1 ∧ (after x p).2.toStanding = (after y q).2.toStanding ∧
      L.behind (after x p).1 (after x p).2.outside (after y q).2.outside

section After

variable (p : Progress σ)

theorem after_bind (x : Eval σ α) (f : α → Eval σ β) :
    after (x >>= f) p = match after x p with
      | (.ok a, q) => after (f a) q
      | (.error e, q) => (.error e, q) := by
  have hstep : after (x >>= f) p = (ExceptT.bindCont f (after x p).1).run (after x p).2 := rfl
  rw [hstep]
  cases after x p with
  | mk r q => cases r <;> rfl

theorem after_outcome (x : Eval σ α) : after (outcome x) p = (.ok (after x p).1, (after x p).2) := rfl

theorem after_callOut (f : σ → σ × Except (List String) α) :
    after (callOut f) p =
      ((f p.outside).2.mapError Failure.callback, { p with outside := (f p.outside).1 }) := by
  have hstep : after (callOut f) p = after (callOut fun _ => f p.outside) p := rfl
  rw [hstep]
  generalize f p.outside = called
  obtain ⟨left, result⟩ := called
  cases result <;> rfl

theorem after_find (st : Setting σ) (path : String) :
    after (find st path) p =
      (findVariable st.template.name st.context p.scopes path, p) := by
  have hstep : after (find st path) p =
      after (ofExcept (findVariable st.template.name st.context p.scopes path)) p := rfl
  rw [hstep]
  cases findVariable st.template.name st.context p.scopes path <;> rfl

end After

namespace Alike

variable {L : Link σ τ} {x : Eval σ α} {y : Eval τ α}

theorem pure (a : α) : Alike L (Pure.pure a) (Pure.pure a) :=
  fun _ _ standing linked => ⟨rfl, standing, linked⟩

theorem throw (e : Failure) : Alike L (MonadExcept.throw e : Eval σ α) (MonadExcept.throw e) :=
  fun p q standing linked => ⟨rfl, standing, L.loosens p.outside q.outside linked⟩

theorem bind {f : α → Eval σ β} {g : α → Eval τ β} (hx : Alike L x y)
    (hf : ∀ a, Alike L (f a) (g a)) : Alike L (x >>= f) (y >>= g) := by
  intro p q standing linked
  have first := hx p q standing linked
  rw [after_bind, after_bind]
  generalize after x p = u at first
  generalize after y q = v at first
  obtain ⟨r, p'⟩ := u
  obtain ⟨r', q'⟩ := v
  obtain ⟨rfl, standing', linked'⟩ := first
  cases r with
  | ok a => exact hf a p' q' standing' linked'
  | error e => exact ⟨rfl, standing', linked'⟩

theorem throw_bind (e : Failure) (f : α → Eval σ β) (g : α → Eval τ β) :
    Alike L (MonadExcept.throw e >>= f) (MonadExcept.throw e >>= g) :=
  fun p q standing linked => ⟨rfl, standing, L.loosens p.outside q.outside linked⟩

theorem ite {x' : Eval σ α} {y' : Eval τ α} {c : Prop} [Decidable c] (hx : c → Alike L x y)
    (hy : ¬ c → Alike L x' y') : Alike L (if c then x else x') (if c then y else y') := by
  split
  · next h => exact hx h
  · next h => exact hy h

theorem map {f : α → β} (hx : Alike L x y) : Alike L (f <$> x) (f <$> y) := by
  rw [map_eq_pure_bind, map_eq_pure_bind]
  exact hx.bind fun a => pure (f a)

theorem loosen (h : Alike L.tight x y) : Alike L x y := by
  intro p q standing linked
  have ends := h p q standing linked
  refine ⟨ends.1, ends.2.1, ?_⟩
  have going : L.going (after x p).2.outside (after y q).2.outside :=
    Link.behind_going L.tight_tight ends.2.2
  generalize (after x p).1 = r
  cases r with
  | ok a => exact going
  | error e => exact L.loosens _ _ going

theorem outcome (tight : L.Tight) (hx : Alike L x y) :
    Alike L (Render.outcome x) (Render.outcome y) := by
  intro p q standing linked
  have ends := hx p q standing linked
  rw [after_outcome, after_outcome]
  exact ⟨congrArg Except.ok ends.1, ends.2.1, Link.behind_going tight ends.2.2⟩

theorem rethrow {f : Except Failure α → Eval σ β} {g : Except Failure α → Eval τ β}
    (hx : Alike L x y) (hok : ∀ a, Alike L (f (.ok a)) (g (.ok a)))
    (herror : ∀ e, ∃ e', f (.error e) = MonadExcept.throw e' ∧ g (.error e) = MonadExcept.throw e') :
    Alike L (Render.outcome x >>= f) (Render.outcome y >>= g) := by
  intro p q standing linked
  have first := hx p q standing linked
  rw [after_bind, after_bind, after_outcome, after_outcome]
  generalize after x p = u at first
  generalize after y q = v at first
  obtain ⟨r, p'⟩ := u
  obtain ⟨r', q'⟩ := v
  obtain ⟨rfl, standing', linked'⟩ := first
  cases r with
  | ok a => exact hok a p' q' standing' linked'
  | error e =>
    obtain ⟨e', hf, hg⟩ := herror e
    simp only [hf, hg]
    exact ⟨rfl, standing', linked'⟩

theorem inside (wrap : Failure → Failure) (hx : Alike L x y) :
    Alike L (Render.inside wrap x) (Render.inside wrap y) :=
  hx.rethrow pure fun e => ⟨wrap e, rfl, rfl⟩

theorem ofExcept (r : Except Failure α) :
    Alike L (Render.ofExcept r : Eval σ α) (Render.ofExcept r) := by
  cases r with
  | ok a => exact pure a
  | error e => exact throw e

theorem ofUse (r : Use α) : Alike L (Render.ofUse r : Eval σ α) (Render.ofUse r) := by
  cases r with
  | ok a => exact pure a
  | error e => exact throw (.builtin e.message)

theorem withScopes (f : List Scope → List Scope) :
    Alike L (Render.withScopes f) (Render.withScopes f) :=
  fun _ _ standing linked =>
    ⟨rfl, congrArg (fun s : Standing => { s with scopes := f s.scopes }) standing, linked⟩

theorem push (s : Scope) : Alike L (Render.push s) (Render.push s) := withScopes (s :: ·)

theorem pop : Alike L Render.pop Render.pop := withScopes List.tail

theorem mapM {γ : Type} {f : γ → Eval σ α} {g : γ → Eval τ α} {items : List γ}
    (h : ∀ c ∈ items, Alike L (f c) (g c)) : Alike L (items.mapM f) (items.mapM g) := by
  induction items with
  | nil =>
    rw [List.mapM_nil, List.mapM_nil]
    exact pure []
  | cons c items ih =>
    rw [List.mapM_cons, List.mapM_cons]
    refine (h c List.mem_cons_self).bind fun a => ?_
    refine (ih fun d hd => h d (List.mem_cons_of_mem c hd)).bind fun rest => ?_
    exact pure (a :: rest)

theorem rounds {key : Option String} {name : String} {length : Nat}
    {body : Eval σ (String × Flow)} {body' : Eval τ (String × Flow)} (h : Alike L body body')
    (i : Nat) (done : String) (items : List (Option String × Json.Value)) :
    Alike L (Render.rounds key name length body i done items)
      (Render.rounds key name length body' i done items) := by
  induction items generalizing i done with
  | nil => exact pure done
  | cons item items ih =>
    refine (push _).bind fun _ => h.bind fun result => pop.bind fun _ => ?_
    obtain ⟨s, flow⟩ := result
    dsimp only
    split
    · exact pure (done ++ s)
    · exact ih (i + 1) (done ++ s)

theorem callOut {f : σ → σ × Except (List String) α} {g : τ → τ × Except (List String) α}
    (h : ∀ s t, L.going s t → (f s).2 = (g t).2 ∧ L.behind (f s).2 (f s).1 (g t).1) :
    Alike L (Render.callOut f) (Render.callOut g) := by
  intro p q standing linked
  have ends := h p.outside q.outside linked
  rw [after_callOut, after_callOut]
  refine ⟨congrArg (Except.mapError Failure.callback) ends.1, standing, ?_⟩
  have behind := ends.2
  generalize (f p.outside).2 = r at behind ⊢
  cases r <;> exact behind

end Alike

end SchemaForge.Template.Render
