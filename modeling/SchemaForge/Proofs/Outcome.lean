import Mathlib.Data.List.Forall2
import Mathlib.Data.List.Perm.Basic

/-! Computations that may fail: what they give if they do not, and where a list that is gone through
item by item fails first. The items in front of that one have all succeeded; nothing is said about
those behind it. -/

namespace SchemaForge.Outcome

variable {ε α β σ : Type}

theorem bind_eq_ok {x : Except ε α} {f : α → Except ε β} {b : β} :
    x >>= f = .ok b ↔ ∃ a, x = .ok a ∧ f a = .ok b := by
  cases x <;> simp [bind, Except.bind]

theorem bind_eq_error {x : Except ε α} {f : α → Except ε β} {e : ε} :
    x >>= f = .error e ↔ x = .error e ∨ ∃ a, x = .ok a ∧ f a = .error e := by
  cases x <;> simp [bind, Except.bind]

theorem map_eq_ok {x : Except ε α} {f : α → β} {b : β} :
    x.map f = .ok b ↔ ∃ a, x = .ok a ∧ f a = b := by
  cases x <;> simp [Except.map]

theorem map_eq_error {x : Except ε α} {f : α → β} {e : ε} :
    x.map f = .error e ↔ x = .error e := by
  cases x <;> simp [Except.map]

theorem pure_eq_ok {a b : α} : (pure a : Except ε α) = .ok b ↔ a = b := by
  simp [pure, Except.pure]

theorem ite_error_eq_ok {c : Prop} [Decidable c] {e : ε} {x : Except ε α} {a : α} :
    (if c then .error e else x) = .ok a ↔ ¬ c ∧ x = .ok a := by
  split <;> simp_all

theorem toOption_eq_some {x : Except ε α} {a : α} : x.toOption = some a ↔ x = .ok a := by
  cases x <;> simp [Except.toOption]

/-- Whatever comes out, if anything does, has a property. -/
def Gives (P : α → Prop) (x : Except ε α) : Prop := ∀ a, x = .ok a → P a

theorem Gives.error {P : α → Prop} (e : ε) : Gives P (.error e : Except ε α) := nofun

theorem Gives.ok {P : α → Prop} {a : α} (h : P a) : Gives P (.ok a : Except ε α) := by
  rintro _ ⟨⟩
  exact h

theorem Gives.pure {P : α → Prop} {a : α} (h : P a) : Gives P (Pure.pure a : Except ε α) :=
  Gives.ok h

theorem Gives.bind {P : α → Prop} {Q : β → Prop} {x : Except ε α} {f : α → Except ε β}
    (hx : Gives P x) (hf : ∀ a, P a → Gives Q (f a)) : Gives Q (x >>= f) := by
  intro b hb
  obtain ⟨a, ha, hb⟩ := bind_eq_ok.mp hb
  exact hf a (hx a ha) b hb

theorem Gives.ite {P : α → Prop} {c : Prop} [Decidable c] {x y : Except ε α} (hx : c → Gives P x)
    (hy : ¬ c → Gives P y) : Gives P (if c then x else y) := by
  split
  · next h => exact hx h
  · next h => exact hy h

theorem Gives.any (x : Except ε α) : Gives (fun _ => True) x := fun _ _ => True.intro

/-- Two computations end in the same way: results that belong together, or errors that do. -/
inductive Matches {ε' β : Type} (E : ε → ε' → Prop) (R : α → β → Prop) :
    Except ε α → Except ε' β → Prop
  | ok {a : α} {b : β} (h : R a b) : Matches E R (.ok a) (.ok b)
  | error {e : ε} {e' : ε'} (h : E e e') : Matches E R (.error e) (.error e')

theorem Matches.ok_iff {ε' β : Type} {E : ε → ε' → Prop} {R : α → β → Prop} {x : Except ε α}
    {y : Except ε' β} (h : Matches E R x y) : (∃ a, x = .ok a) ↔ ∃ b, y = .ok b := by
  cases h <;> simp

theorem Matches.of_error {ε' β : Type} {E : ε → ε' → Prop} {R : α → β → Prop} {x : Except ε α}
    {y : Except ε' β} {e : ε} (h : Matches E R x y) (hx : x = .error e) : ∃ e', y = .error e' ∧ E e e' := by
  subst hx
  cases h with
  | error related => exact ⟨_, rfl, related⟩

/-- The item that stands behind items with `Good` and has `Bad` itself. -/
def At (Good Bad : α → Prop) (items : List α) : Prop :=
  ∃ before x after, items = before ++ x :: after ∧ (∀ y ∈ before, Good y) ∧ Bad x

theorem at_nil {Good Bad : α → Prop} : ¬ At Good Bad [] := by
  rintro ⟨before, x, after, h, -⟩
  cases before <;> cases h

theorem at_cons {Good Bad : α → Prop} {y : α} {items : List α} :
    At Good Bad (y :: items) ↔ Bad y ∨ Good y ∧ At Good Bad items := by
  constructor
  · rintro ⟨before, x, after, h, good, bad⟩
    cases before with
    | nil =>
      obtain ⟨rfl, rfl⟩ := List.cons.inj h
      exact .inl bad
    | cons z before =>
      obtain ⟨rfl, rfl⟩ := List.cons.inj h
      exact .inr ⟨good y List.mem_cons_self,
        before, x, after, rfl, fun w hw => good w (List.mem_cons_of_mem y hw), bad⟩
  · rintro (bad | ⟨good, before, x, after, rfl, goods, bad⟩)
    · exact ⟨[], y, items, rfl, nofun, bad⟩
    · refine ⟨y :: before, x, after, rfl, fun w hw => ?_, bad⟩
      rcases List.mem_cons.mp hw with rfl | hw
      · exact good
      · exact goods w hw

theorem At.imp {Good Good' Bad Bad' : α → Prop} {items : List α}
    (good : ∀ x ∈ items, Good x → Good' x) (bad : ∀ x ∈ items, Bad x → Bad' x)
    (h : At Good Bad items) : At Good' Bad' items := by
  obtain ⟨before, x, after, rfl, goods, hx⟩ := h
  exact ⟨before, x, after, rfl,
    fun y hy => good y (List.mem_append_left _ hy) (goods y hy),
    bad x (List.mem_append_right _ List.mem_cons_self) hx⟩

theorem At.filterMap {f : α → Option β} {Good Bad : α → Prop} {Good' Bad' : β → Prop}
    {items : List α}
    (part : ∀ x ∈ items, ∃ y, f x = some y ∧ (Good x → Good' y) ∧ (Bad x → Bad' y))
    (h : At Good Bad items) : At Good' Bad' (items.filterMap f) := by
  induction items with
  | nil => exact absurd h at_nil
  | cons x items ih =>
    obtain ⟨y, hy, good, bad⟩ := part x List.mem_cons_self
    rw [List.filterMap_cons_some hy, at_cons]
    rcases at_cons.mp h with hbad | ⟨hgood, h⟩
    · exact .inl (bad hbad)
    · exact .inr ⟨good hgood, ih (fun z hz => part z (List.mem_cons_of_mem x hz)) h⟩

theorem mapM_eq_ok {f : α → Except ε β} {items : List α} {out : List β} :
    items.mapM f = .ok out ↔ List.Forall₂ (fun a b => f a = .ok b) items out := by
  induction items generalizing out with
  | nil =>
    rw [List.mapM_nil, pure_eq_ok, List.forall₂_nil_left_iff]
    exact eq_comm
  | cons a items ih =>
    simp only [List.mapM_cons, bind_eq_ok, pure_eq_ok, ih, List.forall₂_cons_left_iff]
    constructor
    · rintro ⟨b, hb, rest, hrest, rfl⟩
      exact ⟨b, rest, hb, hrest, rfl⟩
    · rintro ⟨b, rest, hb, hrest, rfl⟩
      exact ⟨b, hb, rest, hrest, rfl⟩

theorem exists_of_mem_right {R : α → β → Prop} {items : List α} {out : List β}
    (h : List.Forall₂ R items out) {b : β} (hb : b ∈ out) : ∃ a ∈ items, R a b := by
  induction h with
  | nil => cases hb
  | cons hr _ ih =>
    rcases List.mem_cons.mp hb with rfl | hb
    · exact ⟨_, List.mem_cons_self, hr⟩
    · obtain ⟨a, ha, hr⟩ := ih hb
      exact ⟨a, List.mem_cons_of_mem _ ha, hr⟩

theorem exists_of_getElem?_right {R : α → β → Prop} {items : List α} {out : List β}
    (h : List.Forall₂ R items out) {i : Nat} {b : β} (hb : out[i]? = some b) :
    ∃ a, items[i]? = some a ∧ R a b := by
  induction h generalizing i with
  | nil => simp at hb
  | cons hr _ ih =>
    cases i with
    | zero =>
      obtain rfl := Option.some.inj hb
      exact ⟨_, rfl, hr⟩
    | succ i => simpa using ih hb

theorem forall₂_of_mem {R S : α → β → Prop} {items : List α} {out : List β}
    (h : List.Forall₂ R items out) (part : ∀ a ∈ items, ∀ b, R a b → S a b) :
    List.Forall₂ S items out := by
  have hmem : List.Forall₂ (fun a b => a ∈ items ∧ R a b) items out :=
    (List.forall₂_and_left _ _).mpr ⟨fun _ ha => ha, h⟩
  exact hmem.imp fun a b hab => part a hab.1 b hab.2

theorem forall₂_filterMap {γ δ : Type} {R : α → β → Prop} {S : γ → δ → Prop} {f : α → Option γ}
    {g : β → δ} {items : List α} {out : List β} (h : List.Forall₂ R items out)
    (part : ∀ a ∈ items, ∀ b, R a b → ∃ c, f a = some c ∧ S c (g b)) :
    List.Forall₂ S (items.filterMap f) (out.map g) := by
  induction h with
  | nil => exact .nil
  | cons hr _ ih =>
    obtain ⟨c, hc, hs⟩ := part _ List.mem_cons_self _ hr
    rw [List.filterMap_cons_some hc, List.map_cons]
    exact .cons hs (ih fun a ha => part a (List.mem_cons_of_mem _ ha))

theorem filterMap_eq_map {γ : Type} {R : α → β → Prop} {f : α → Option γ} {g : β → γ}
    {items : List α} {out : List β} (h : List.Forall₂ R items out)
    (part : ∀ a ∈ items, ∀ b, R a b → f a = some (g b)) : items.filterMap f = out.map g := by
  rw [← List.forall₂_eq_eq_eq]
  exact forall₂_filterMap h fun a ha b hr => ⟨g b, part a ha b hr, rfl⟩

theorem exists_mapM_eq_ok {f : α → Except ε β} {items : List α} :
    (∃ out, items.mapM f = .ok out) ↔ ∀ a ∈ items, ∃ b, f a = .ok b := by
  induction items with
  | nil => simp [List.mapM_nil, pure_eq_ok]
  | cons a items ih =>
    simp only [List.mapM_cons, bind_eq_ok, pure_eq_ok, List.forall_mem_cons, ← ih]
    constructor
    · rintro ⟨_, b, hb, rest, hrest, -⟩
      exact ⟨⟨b, hb⟩, rest, hrest⟩
    · rintro ⟨⟨b, hb⟩, rest, hrest⟩
      exact ⟨_, b, hb, rest, hrest, rfl⟩

theorem mapM_eq_error {f : α → Except ε β} {items : List α} {e : ε} :
    items.mapM f = .error e ↔ At (fun a => ∃ b, f a = .ok b) (fun a => f a = .error e) items := by
  induction items with
  | nil => simp [List.mapM_nil, pure, Except.pure, at_nil]
  | cons a items ih =>
    simp only [List.mapM_cons, bind_eq_error, at_cons, ← ih]
    constructor
    · rintro (h | ⟨b, hb, h | ⟨rest, -, h⟩⟩)
      · exact .inl h
      · exact .inr ⟨⟨b, hb⟩, h⟩
      · cases h
    · rintro (h | ⟨⟨b, hb⟩, h⟩)
      · exact .inl h
      · exact .inr ⟨b, hb, .inl h⟩

theorem mapM_map {γ : Type} (f : α → Except ε β) (g : β → γ) (items : List α) :
    items.mapM (fun a => (f a).map g) = (items.mapM f).map (List.map g) := by
  induction items with
  | nil => rfl
  | cons a items ih =>
    rw [List.mapM_cons, List.mapM_cons, ih]
    cases f a with
    | error e => rfl
    | ok b => cases items.mapM f <;> rfl

theorem mapM_perm {f : α → Except ε β} {items items' : List α} {out : List β} (perm : items.Perm items')
    (h : items.mapM f = .ok out) : ∃ out', items'.mapM f = .ok out' ∧ out.Perm out' := by
  obtain ⟨out', related, hperm⟩ := List.perm_comp_forall₂ perm.symm (mapM_eq_ok.mp h)
  exact ⟨out', mapM_eq_ok.mpr related, hperm.symm⟩

theorem foldlM_cons_eq_ok {step : σ → α → Except ε σ} {s t : σ} {a : α} {items : List α} :
    (a :: items).foldlM step s = .ok t ↔
      ∃ s', step s a = .ok s' ∧ items.foldlM step s' = .ok t := by
  rw [List.foldlM_cons, bind_eq_ok]

theorem exists_of_foldlM_eq_error {step : σ → α → Except ε σ} {s : σ} {items : List α} {e : ε}
    (h : items.foldlM step s = .error e) : ∃ a ∈ items, ∃ s', step s' a = .error e := by
  induction items generalizing s with
  | nil => cases h
  | cons a items ih =>
    rw [List.foldlM_cons] at h
    rcases bind_eq_error.mp h with h | ⟨s', -, h⟩
    · exact ⟨a, List.mem_cons_self, s, h⟩
    · obtain ⟨b, hb, t, ht⟩ := ih h
      exact ⟨b, List.mem_cons_of_mem a hb, t, ht⟩

end SchemaForge.Outcome
